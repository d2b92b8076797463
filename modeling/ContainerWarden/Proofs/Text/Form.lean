import ContainerWarden.Proofs.Text.Unicode
import ContainerWarden.Text.Percent

namespace ContainerWarden.Text

namespace Utf8Reader

variable {reader : Utf8Reader} {missing low high value point n : Nat}

theorem toNat_octet (small : n < 0x100) : (UInt8.ofNat n).toNat = n := by
  simp [Nat.mod_eq_of_lt small]

theorem read_start (idle : reader.begun = none) (small : n < 0x100) :
    reader.read (UInt8.ofNat n) = reader.start n := by
  simp [read, idle, toNat_octet small]

theorem read_await (above : low ≤ n) (below : n ≤ high) (small : n < 0x100) :
    (reader.await missing low high value).read (UInt8.ofNat n) =
      if missing ≤ 1 then reader.emit (some (0x40 * value + n % 0x40))
      else reader.await (missing - 1) 0x80 0xBF (0x40 * value + n % 0x40) := by
  simp [read, await, emit, toNat_octet small, above, below]

theorem start_two (first : 0xC2 ≤ n) (last : n < 0xE0) :
    reader.start n = reader.await 1 0x80 0xBF (n - 0xC0) := by
  simp [start, show ¬ n < 0x80 by omega, show ¬ n < 0xC2 by omega, show ¬ 0xF4 < n by omega, last]

theorem start_three (first : 0xE0 ≤ n) (last : n < 0xF0) :
    reader.start n = reader.await 2 (if n == 0xE0 then 0xA0 else 0x80)
      (if n == 0xED && !reader.surrogates then 0x9F else 0xBF) (n - 0xE0) := by
  simp [start, show ¬ n < 0x80 by omega, show ¬ n < 0xC2 by omega, show ¬ 0xF4 < n by omega,
    show ¬ n < 0xE0 by omega, last]

theorem start_four (first : 0xF0 ≤ n) (last : n ≤ 0xF4) :
    reader.start n = reader.await 3 (if n == 0xF0 then 0x90 else 0x80) (if n == 0xF4 then 0x8F else 0xBF)
      (n - 0xF0) := by
  simp [start, show ¬ n < 0x80 by omega, show ¬ n < 0xC2 by omega, show ¬ 0xF4 < n by omega,
    show ¬ n < 0xE0 by omega, show ¬ n < 0xF0 by omega]

/-- The octets of a character are read as the character, after whatever came before. -/
theorem foldl_pointOctets (plain : IsPlain point) (idle : reader.begun = none) :
    (pointOctets point).foldl read reader = reader.emit (some point) := by
  have own : (Char.ofNat point).val.toNat = point := plain.toNat_ofNat
  obtain ⟨valid, whole⟩ := plain
  have apart := mt isSurrogate_iff.mpr (Bool.eq_false_iff.mp whole)
  unfold pointOctets String.utf8EncodeChar
  rw [whole, own]
  simp only [Bool.false_eq_true, if_false]
  split
  · rename_i one
    rw [List.foldl_cons, read_start idle (by omega)]
    simp [start, show point < 0x80 by omega]
  split
  · rename_i two
    rw [List.foldl_cons, read_start idle (by omega), start_two (by omega) (by omega), List.foldl_cons,
      read_await (by omega) (by omega) (by omega), if_pos (by omega), List.foldl_nil]
    congr 2
    omega
  split
  · rename_i three
    rw [List.foldl_cons, read_start idle (by omega), start_three (by omega) (by omega), List.foldl_cons,
      read_await ?low ?high (by omega), if_neg (by omega), List.foldl_cons,
      read_await (by omega) (by omega) (by omega), if_pos (by omega), List.foldl_nil]
    case low =>
      split
      · rename_i first
        rw [beq_iff_eq] at first
        omega
      · omega
    case high =>
      split
      · rename_i first
        rw [Bool.and_eq_true, beq_iff_eq] at first
        omega
      · omega
    congr 2
    omega
  · rename_i four
    rw [List.foldl_cons, read_start idle (by omega), start_four (by omega) (by omega), List.foldl_cons,
      read_await ?low ?high (by omega), if_neg (by omega), List.foldl_cons,
      read_await (by omega) (by omega) (by omega), if_neg (by omega), List.foldl_cons,
      read_await (by omega) (by omega) (by omega), if_pos (by omega), List.foldl_nil]
    case low =>
      split
      · rename_i first
        rw [beq_iff_eq] at first
        omega
      · omega
    case high =>
      split
      · rename_i first
        rw [beq_iff_eq] at first
        omega
      · omega
    congr 2
    omega

end Utf8Reader

theorem utf8Points_pointOctets (surrogates : Bool) {codes : List Nat} (plain : ∀ n ∈ codes, IsPlain n) :
    utf8Points surrogates (codes.flatMap pointOctets) = codes.map some := by
  have whole (reader : Utf8Reader) (idle : reader.begun = none) :
      (codes.flatMap pointOctets).foldl Utf8Reader.read reader =
        { reader with found := (codes.map some).reverse ++ reader.found } := by
    induction codes generalizing reader with
    | nil => rfl
    | cons n rest ih =>
      obtain ⟨first, others⟩ := List.forall_mem_cons.mp plain
      rw [List.flatMap_cons, List.foldl_append, Utf8Reader.foldl_pointOctets first idle, ih others _ rfl]
      simp [Utf8Reader.emit, idle]
  rw [utf8Points, whole _ rfl]
  simp [Utf8Reader.finish]

theorem isPlain_of_isUnicode {s : String} (unicode : isUnicode s = true) : ∀ n ∈ points s, IsPlain n := by
  intro n member
  have whole := List.all_eq_true.mp unicode n member
  exact ⟨lt_of_mem_read member, by simpa using whole⟩

theorem utf8Repaired_utf8Octets {s : String} (unicode : isUnicode s = true) :
    utf8Repaired (utf8Octets s) = ofPoints (points s) := by
  unfold utf8Repaired utf8Octets
  rw [utf8Points_pointOctets false (isPlain_of_isUnicode unicode)]
  simp [Function.comp_def]

def isFormChar (c : Char) : Bool := isUnreserved c || c == '+' || c == '%'

theorem isUnreserved_lt {c : Char} (kept : isUnreserved c = true) : c.toNat < 0x80 := by
  delta isUnreserved Char.isAlphanum Char.isAlpha Char.isUpper Char.isLower Char.isDigit at kept
  simp only [Bool.or_eq_true, Bool.and_eq_true, decide_eq_true_eq, beq_iff_eq, UInt32.le_iff_toNat_le] at kept
  have letters : 'Z'.val.toNat = 90 ∧ 'z'.val.toNat = 122 ∧ '9'.val.toNat = 57 := by decide
  have code : c.toNat = c.val.toNat := rfl
  rcases kept with (((((upper | lower) | digit) | rfl) | rfl) | rfl) | rfl
  · omega
  · omega
  · omega
  all_goals decide

theorem isFormChar_lt {c : Char} (kept : isFormChar c = true) : c.toNat < 0x80 := by
  simp only [isFormChar, Bool.or_eq_true, beq_iff_eq] at kept
  rcases kept with (unreserved | rfl) | rfl
  · exact isUnreserved_lt unreserved
  · decide
  · decide

theorem isFormChar_apart {c : Char} (kept : isFormChar c = true) : c ≠ '&' ∧ c ≠ '=' ∧ c ≠ mark := by
  refine ⟨?_, ?_, ?_⟩ <;>
    · rintro rfl
      exact absurd kept (by decide)

theorem isUnreserved_upperHexDigit {n : Nat} (digit : n < 16) : isUnreserved (upperHexDigit n) = true := by
  have table : ∀ n < 16, isUnreserved (upperHexDigit n) = true := by decide
  exact table n digit

theorem hexValue?_upperHexDigit {n : Nat} (digit : n < 16) : hexValue? (upperHexDigit n) = some n := by
  have table : ∀ n < 16, hexValue? (upperHexDigit n) = some n := by decide
  exact table n digit

theorem digits_of_octet (octet : UInt8) : octet.toNat / 16 < 16 ∧ octet.toNat % 16 < 16 := by
  have size := octet.toNat_lt
  omega

theorem isFormChar_of_isUnreserved {c : Char} (kept : isUnreserved c = true) : isFormChar c = true := by
  rw [isFormChar, kept, Bool.true_or, Bool.true_or]

theorem isFormChar_formPoint (point : Nat) : ∀ c ∈ formPoint point, isFormChar c = true := by
  intro c member
  unfold formPoint at member
  dsimp only at member
  split at member
  · rename_i unreserved
    obtain rfl := List.mem_singleton.mp member
    exact isFormChar_of_isUnreserved unreserved
  · split at member
    · obtain rfl := List.mem_singleton.mp member
      decide
    · obtain ⟨octet, -, digit⟩ := List.mem_flatMap.mp member
      obtain ⟨high, low⟩ := digits_of_octet octet
      simp only [percentOctet, List.mem_cons, List.not_mem_nil, or_false] at digit
      rcases digit with rfl | rfl | rfl
      · decide
      · exact isFormChar_of_isUnreserved (isUnreserved_upperHexDigit high)
      · exact isFormChar_of_isUnreserved (isUnreserved_upperHexDigit low)

theorem isFormChar_formEncoded (s : String) : ∀ c ∈ (formEncoded s).toList, isFormChar c = true := by
  intro c member
  rw [formEncoded, String.toList_ofList] at member
  obtain ⟨point, -, inside⟩ := List.mem_flatMap.mp member
  exact isFormChar_formPoint point c inside

theorem percentOctets_plain {n : Nat} (plain : n ≠ 0x25) (rest : List Nat) :
    percentOctets (n :: rest) = pointOctets n ++ percentOctets rest := by
  match rest with
  | [] => simp [percentOctets]
  | [_] => simp [percentOctets]
  | _ :: _ :: _ => simp [percentOctets, plain]

theorem percentOctets_octet (octet : UInt8) (rest : List Nat) :
    percentOctets ((percentOctet octet).map Char.toNat ++ rest) = octet :: percentOctets rest := by
  obtain ⟨high, low⟩ := digits_of_octet octet
  have whole : 16 * (octet.toNat / 16) + octet.toNat % 16 = octet.toNat := by omega
  simp only [percentOctet, List.map_cons, List.map_nil, List.cons_append, List.nil_append]
  rw [show '%'.toNat = 0x25 from rfl, percentOctets, Char.ofNat_toNat, Char.ofNat_toNat,
    hexValue?_upperHexDigit high, hexValue?_upperHexDigit low]
  dsimp only
  rw [whole, UInt8.ofNat_toNat]

theorem percentOctets_octets (octets : List UInt8) (rest : List Nat) :
    percentOctets ((octets.flatMap percentOctet).map Char.toNat ++ rest) = octets ++ percentOctets rest := by
  induction octets with
  | nil => rfl
  | cons octet others ih =>
    rw [List.flatMap_cons, List.map_append, List.append_assoc, percentOctets_octet, ih, List.cons_append]

/-- Plus signs stand for blanks only once they are read. -/
def unplus (c : Char) : Char := if c == '+' then ' ' else c

theorem unplus_unreserved {c : Char} (kept : isUnreserved c = true) : unplus c = c := by
  refine if_neg fun plus => ?_
  rw [beq_iff_eq.mp plus] at kept
  exact absurd kept (by decide)

theorem unplus_percentOctet (octet : UInt8) : (percentOctet octet).map unplus = percentOctet octet := by
  obtain ⟨high, low⟩ := digits_of_octet octet
  simp only [percentOctet, List.map_cons, List.map_nil, unplus_unreserved (isUnreserved_upperHexDigit high),
    unplus_unreserved (isUnreserved_upperHexDigit low)]
  rfl

theorem unplus_percentPoint (point : Nat) : (percentPoint point).map unplus = percentPoint point := by
  unfold percentPoint
  rw [List.map_flatMap]
  simp only [unplus_percentOctet]

theorem formPoint_read {point : Nat} (plain : IsPlain point) (rest : List Nat) :
    percentOctets (((formPoint point).map unplus).map Char.toNat ++ rest) =
      pointOctets point ++ percentOctets rest := by
  unfold formPoint
  dsimp only
  split
  · rename_i kept
    have other : point ≠ 0x25 := by
      rintro rfl
      exact absurd kept (by decide)
    rw [List.map_singleton, unplus_unreserved kept, List.map_singleton, plain.toNat_ofNat, List.singleton_append,
      percentOctets_plain other]
  · split
    · rename_i blank
      obtain rfl : 0x20 = point := (congrArg Char.toNat (beq_iff_eq.mp blank)).symm.trans plain.toNat_ofNat
      exact percentOctets_plain (by decide) rest
    · rw [unplus_percentPoint, percentPoint, percentOctets_octets]

theorem formPoints_read {codes : List Nat} (plain : ∀ n ∈ codes, IsPlain n) :
    percentOctets (((codes.flatMap formPoint).map unplus).map Char.toNat) = codes.flatMap pointOctets := by
  induction codes with
  | nil => rfl
  | cons point rest ih =>
    obtain ⟨first, others⟩ := List.forall_mem_cons.mp plain
    rw [List.flatMap_cons, List.map_append, List.map_append, formPoint_read first, ih others, List.flatMap_cons]

theorem points_of_unmarked {s : String} (plain : ∀ c ∈ s.toList, c ≠ mark) :
    points s = s.toList.map Char.toNat := by
  unfold points
  generalize s.toList = cs at plain
  induction cs with
  | nil => rfl
  | cons c rest ih =>
    obtain ⟨first, others⟩ := List.forall_mem_cons.mp plain
    rw [read_plain first, ih others, List.map_cons]

theorem unplus_ne_mark {c : Char} (other : c ≠ mark) : unplus c ≠ mark := by
  unfold unplus
  split
  · decide
  · exact other

theorem formDecoded_formEncoded {s : String} (unicode : isUnicode s = true) :
    formDecoded (formEncoded s) = ofPoints (points s) := by
  have marks : ∀ c ∈ (String.ofList ((formEncoded s).toList.map unplus)).toList, c ≠ mark := by
    intro c member
    rw [String.toList_ofList] at member
    obtain ⟨letter, inside, rfl⟩ := List.mem_map.mp member
    exact unplus_ne_mark (isFormChar_apart (isFormChar_formEncoded s letter inside)).2.2
  show utf8Repaired (percentOctets (points (String.ofList ((formEncoded s).toList.map unplus)))) = _
  rw [points_of_unmarked marks, String.toList_ofList, formEncoded, String.toList_ofList,
    formPoints_read (isPlain_of_isUnicode unicode)]
  exact utf8Repaired_utf8Octets unicode

def reread (field : String × String) : String × String := (ofPoints (points field.1), ofPoints (points field.2))

def formPiece (field : String × String) : String := formEncoded field.1 ++ "=" ++ formEncoded field.2

theorem toList_formPiece (field : String × String) :
    (formPiece field).toList = (formEncoded field.1).toList ++ '=' :: (formEncoded field.2).toList := by
  simp [formPiece, String.toList_append]

theorem mem_formPiece {field : String × String} {c : Char} (member : c ∈ (formPiece field).toList) :
    c = '=' ∨ isFormChar c = true := by
  rw [toList_formPiece, List.mem_append, List.mem_cons] at member
  rcases member with name | rfl | value
  · exact .inr (isFormChar_formEncoded _ c name)
  · exact .inl rfl
  · exact .inr (isFormChar_formEncoded _ c value)

theorem formField_formPiece {field : String × String} (name : isUnicode field.1 = true)
    (value : isUnicode field.2 = true) : formField (formPiece field) = reread field := by
  have letters : ∀ c ∈ (formEncoded field.1).toList, (c != '=') = true := fun c member =>
    bne_iff_ne.mpr (isFormChar_apart (isFormChar_formEncoded _ c member)).2.1
  unfold formField
  rw [toList_formPiece, List.span_eq_takeWhile_dropWhile, List.takeWhile_append_of_pos letters,
    List.dropWhile_append_of_pos letters]
  simp [reread, formDecoded_formEncoded name, formDecoded_formEncoded value]

variable {fields : List (String × String)}

theorem toList_formQuery (fields : List (String × String)) :
    (formQuery fields).toList = ['&'].intercalate ((fields.map formPiece).map String.toList) :=
  String.toList_intercalate

theorem mem_formQuery {c : Char} (member : c ∈ (formQuery fields).toList) :
    c = '&' ∨ c = '=' ∨ isFormChar c = true := by
  rw [toList_formQuery] at member
  rcases mem_intercalate member with separator | inside
  · exact .inl separator
  · obtain ⟨_, listed, letter⟩ := List.mem_flatten.mp inside
    obtain ⟨_, piece, rfl⟩ := List.mem_map.mp listed
    obtain ⟨field, -, rfl⟩ := List.mem_map.mp piece
    exact .inr (mem_formPiece letter)

/-- A query is read as the fields that it was made of. -/
theorem formFields_formQuery (present : fields ≠ [])
    (unicode : ∀ field ∈ fields, isUnicode field.1 = true ∧ isUnicode field.2 = true) :
    formFields (formQuery fields) = fields.map reread := by
  have apart : ∀ piece ∈ (fields.map formPiece).map String.toList, '&' ∉ piece := by
    intro piece member separator
    obtain ⟨_, inside, rfl⟩ := List.mem_map.mp member
    obtain ⟨field, -, rfl⟩ := List.mem_map.mp inside
    rcases mem_formPiece separator with equals | letter
    · exact absurd equals (by decide)
    · exact (isFormChar_apart letter).1 rfl
  have cut : pieces '&' (formQuery fields) = fields.map formPiece := by
    rw [pieces, toList_formQuery, List.splitOn_intercalate _ apart (by simpa using present)]
    simp [Function.comp_def]
  have full : ∀ piece ∈ fields.map formPiece, (piece != "") = true := by
    intro piece member
    obtain ⟨field, -, rfl⟩ := List.mem_map.mp member
    refine bne_iff_ne.mpr fun empty => ?_
    have letters := congrArg String.toList empty
    simp [toList_formPiece] at letters
  rw [formFields, cut, List.filter_eq_self.mpr full, List.map_map]
  exact List.map_congr_left fun field member =>
    formField_formPiece (unicode field member).1 (unicode field member).2

end ContainerWarden.Text
