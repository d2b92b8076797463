import Mathlib.Data.List.DropRight
import Mathlib.Data.List.Forall2
import Mathlib.Data.Nat.Digits.Defs
import ContainerWarden.Environment
import ContainerWarden.Text.Pieces

namespace ContainerWarden

namespace Text

/-- The ranges of the characters that Unicode calls white space. The information separators U+001C to U+001F
    are not among them. -/
def whiteSpace : List (Nat × Nat) :=
  [(0x09, 0x0D), (0x20, 0x20), (0x85, 0x85), (0xA0, 0xA0), (0x1680, 0x1680), (0x2000, 0x200A),
    (0x2028, 0x2029), (0x202F, 0x202F), (0x205F, 0x205F), (0x3000, 0x3000)]

def IsWhiteSpace (c : Char) : Prop := ∃ range ∈ whiteSpace, range.1 ≤ c.toNat ∧ c.toNat ≤ range.2

instance (c : Char) : Decidable (IsWhiteSpace c) :=
  inferInstanceAs (Decidable (∃ range ∈ whiteSpace, range.1 ≤ c.toNat ∧ c.toNat ≤ range.2))

theorem isNumberBlank_iff {c : Char} : isNumberBlank c = true ↔ IsWhiteSpace c := by
  simp only [isNumberBlank, isBlank, IsWhiteSpace, whiteSpace, List.mem_cons, List.not_mem_nil,
    Bool.and_eq_true, Bool.or_eq_true, Bool.not_eq_true', Bool.and_eq_false_iff, decide_eq_true_eq,
    decide_eq_false_iff_not, beq_iff_eq, or_false, exists_eq_or_imp, exists_eq_left]
  omega

def IsDigit (c : Char) (value : Nat) : Prop := value < 10 ∧ ∃ first ∈ digitZeros, c.toNat = first + value

instance (c : Char) (value : Nat) : Decidable (IsDigit c value) :=
  inferInstanceAs (Decidable (value < 10 ∧ ∃ first ∈ digitZeros, c.toNat = first + value))

theorem digitZeros_apart : ∀ first ∈ digitZeros, ∀ other ∈ digitZeros,
    first = other ∨ first + 10 ≤ other ∨ other + 10 ≤ first := by
  decide +kernel

theorem digitValue?_eq_some_iff {c : Char} {value : Nat} : digitValue? c = some value ↔ IsDigit c value := by
  unfold digitValue?
  rw [Option.map_eq_some_iff]
  constructor
  · rintro ⟨first, found, rfl⟩
    have member := List.mem_of_find?_eq_some found
    have range := List.find?_some found
    simp only [Bool.and_eq_true, decide_eq_true_eq] at range
    exact ⟨by omega, first, member, by omega⟩
  · rintro ⟨small, first, member, place⟩
    cases found : digitZeros.find? fun first => first ≤ c.toNat && c.toNat < first + 10 with
    | none =>
      have outside := List.find?_eq_none.mp found first member
      simp only [Bool.and_eq_true, decide_eq_true_eq] at outside
      omega
    | some other =>
      have apart := digitZeros_apart first member other (List.mem_of_find?_eq_some found)
      have range := List.find?_some found
      simp only [Bool.and_eq_true, decide_eq_true_eq] at range
      exact ⟨other, rfl, by omega⟩

theorem digitZeros_dark : ∀ first ∈ digitZeros, ∀ value < 10, ∀ range ∈ whiteSpace,
    ¬ (range.1 ≤ first + value ∧ first + value ≤ range.2) := by
  decide +kernel

theorem IsDigit.not_isNumberBlank {c : Char} {value : Nat} (digit : IsDigit c value) :
    isNumberBlank c = false := by
  refine Bool.eq_false_iff.mpr fun blank => ?_
  obtain ⟨small, first, member, place⟩ := digit
  obtain ⟨range, white, within⟩ := isNumberBlank_iff.mp blank
  rw [place] at within
  exact digitZeros_dark first member value small range white within

theorem IsDigit.ne {c mark : Char} {value : Nat} (digit : IsDigit c value) (none : digitValue? mark = none) :
    c ≠ mark := by
  rintro rfl
  cases none.symm.trans (digitValue?_eq_some_iff.mpr digit)

theorem isDigit_digitChar {value : Nat} (small : value < 10) : IsDigit value.digitChar value := by
  revert value
  decide +kernel

variable {blank : Char → Bool} {before middle after : List Char}

theorem exists_trim (blank : Char → Bool) (cs : List Char) : ∃ before after,
    before ++ trim blank cs ++ after = cs ∧ (∀ c ∈ before, blank c = true) ∧
      ∀ c ∈ after, blank c = true := by
  refine ⟨cs.takeWhile blank, (cs.dropWhile blank).rtakeWhile blank, ?_, ?_, ?_⟩
  · have whole : trim blank cs = (cs.dropWhile blank).rdropWhile blank := rfl
    rw [List.append_assoc, whole, List.rdropWhile_append_rtakeWhile, List.takeWhile_append_dropWhile]
  · exact fun c member => List.mem_takeWhile_imp member
  · exact fun c member => List.mem_rtakeWhile_imp member

theorem trim_surrounded (front : ∀ c ∈ before, blank c = true) (back : ∀ c ∈ after, blank c = true)
    (dark : ∀ c ∈ middle, blank c = false) (filled : middle ≠ []) :
    trim blank (before ++ middle ++ after) = middle := by
  have opened : (middle ++ after).dropWhile blank = middle ++ after := by
    obtain ⟨c, rest, rfl⟩ := List.exists_cons_of_ne_nil filled
    exact List.dropWhile_cons_of_neg (Bool.eq_false_iff.mp (dark c List.mem_cons_self))
  have closed : middle.reverse.dropWhile blank = middle.reverse := by
    obtain ⟨c, rest, turned⟩ := List.exists_cons_of_ne_nil (List.reverse_ne_nil_iff.mpr filled)
    have member : c ∈ middle := List.mem_reverse.mp (turned ▸ List.mem_cons_self)
    rw [turned]
    exact List.dropWhile_cons_of_neg (Bool.eq_false_iff.mp (dark c member))
  unfold trim
  rw [List.append_assoc, List.dropWhile_append_of_pos front, opened, List.reverse_append,
    List.dropWhile_append_of_pos fun c member => back c (List.mem_reverse.mp member), closed,
    List.reverse_reverse]

end Text

namespace Number

open Text (IsDigit digitValue? digitValue?_eq_some_iff)

variable {cs : List Char} {values : List Nat}

theorem digitRun?_single {c : Char} : digitRun? [c] = some values ↔
    ∃ value, IsDigit c value ∧ values = [value] := by
  rw [digitRun?]
  simp [Option.bind_eq_some_iff, ← digitValue?_eq_some_iff, eq_comm (a := values)]

theorem digitRun?_separated {c : Char} : digitRun? (c :: '_' :: cs) = some values ↔
    ∃ value rest, IsDigit c value ∧ digitRun? cs = some rest ∧ values = value :: rest := by
  rw [digitRun?]
  simp [Option.bind_eq_some_iff, ← digitValue?_eq_some_iff, eq_comm (a := values)]

theorem digitRun?_next {c next : Char} (other : next ≠ '_') : digitRun? (c :: next :: cs) = some values ↔
    ∃ value rest, IsDigit c value ∧ digitRun? (next :: cs) = some rest ∧ values = value :: rest := by
  rw [digitRun?]
  simp [Option.bind_eq_some_iff, ← digitValue?_eq_some_iff, eq_comm (a := values), other]

structure Grouped (groups : List (List Char)) (cs : List Char) : Prop where
  present : groups ≠ []
  filled : ∀ group ∈ groups, group ≠ []
  joined : ['_'].intercalate groups = cs

variable {groups : List (List Char)} {group : List Char}

theorem Grouped.single (c : Char) : Grouped [[c]] [c] := ⟨by simp, by simp, by simp⟩

theorem Grouped.separated (grouped : Grouped groups cs) (c : Char) :
    Grouped ([c] :: groups) (c :: '_' :: cs) := by
  obtain ⟨present, filled, joined⟩ := grouped
  obtain ⟨group, rest, rfl⟩ := List.exists_cons_of_ne_nil present
  refine ⟨by simp, ?_, by rw [List.intercalate_cons_cons, joined]; rfl⟩
  simpa using filled

theorem intercalate_cons (c : Char) : ['_'].intercalate ((c :: group) :: groups) =
    c :: ['_'].intercalate (group :: groups) := by
  cases groups with
  | nil => simp
  | cons next rest => simp [List.intercalate_cons_cons]

theorem Grouped.next (grouped : Grouped groups cs) (c : Char) : ∃ longer, Grouped longer (c :: cs) ∧
    longer.flatten = c :: groups.flatten := by
  obtain ⟨present, filled, joined⟩ := grouped
  obtain ⟨group, rest, rfl⟩ := List.exists_cons_of_ne_nil present
  refine ⟨(c :: group) :: rest, ⟨by simp, ?_, by rw [intercalate_cons, joined]⟩, rfl⟩
  intro other member
  rcases List.mem_cons.mp member with rfl | member
  · exact List.cons_ne_nil _ _
  · exact filled other (List.mem_cons_of_mem _ member)

theorem grouped_of_digitRun? (read : digitRun? cs = some values) :
    ∃ groups, Grouped groups cs ∧ List.Forall₂ IsDigit groups.flatten values := by
  induction cs using digitRun?.induct generalizing values with
  | case1 => cases read
  | case2 c rest ih =>
    cases rest with
    | nil =>
      obtain ⟨value, digit, rfl⟩ := digitRun?_single.mp read
      exact ⟨_, .single c, by simpa using digit⟩
    | cons next more =>
      by_cases mark : next = '_'
      · subst mark
        obtain ⟨value, rest, digit, later, rfl⟩ := digitRun?_separated.mp read
        obtain ⟨groups, grouped, valued⟩ := ih later
        exact ⟨_, grouped.separated c, .cons digit valued⟩
      · obtain ⟨value, rest, digit, later, rfl⟩ := (digitRun?_next mark).mp read
        split at ih
        case h_1 empty => cases empty
        case h_2 same => exact absurd (List.cons.inj same).1 mark
        case h_3 =>
          obtain ⟨groups, grouped, valued⟩ := ih later
          obtain ⟨longer, own, flat⟩ := grouped.next c
          exact ⟨longer, own, flat ▸ .cons digit valued⟩

theorem digitRun?_of_grouped (grouped : Grouped groups cs)
    (valued : List.Forall₂ IsDigit groups.flatten values) : digitRun? cs = some values := by
  induction values generalizing groups cs with
  | nil =>
    obtain ⟨group, rest, rfl⟩ := List.exists_cons_of_ne_nil grouped.present
    have empty := List.forall₂_nil_right_iff.mp valued
    simp only [List.flatten_cons, List.append_eq_nil_iff] at empty
    exact absurd empty.1 (grouped.filled group List.mem_cons_self)
  | cons value values ih =>
    obtain ⟨present, filled, rfl⟩ := grouped
    obtain ⟨group, rest, rfl⟩ := List.exists_cons_of_ne_nil present
    obtain ⟨c, group, rfl⟩ := List.exists_cons_of_ne_nil (filled group List.mem_cons_self)
    obtain ⟨digit, valued⟩ := List.forall₂_cons.mp valued
    have others : ∀ group ∈ rest, group ≠ [] := fun group member =>
      filled group (List.mem_cons_of_mem _ member)
    cases group with
    | nil =>
      cases rest with
      | nil =>
        obtain rfl := List.forall₂_nil_left_iff.mp valued
        exact digitRun?_single.mpr ⟨value, digit, rfl⟩
      | cons group rest =>
        have later := ih ⟨List.cons_ne_nil _ _, others, rfl⟩ valued
        rw [List.intercalate_cons_cons]
        exact digitRun?_separated.mpr ⟨value, values, digit, later, rfl⟩
    | cons next group =>
      have shorter : Grouped ((next :: group) :: rest) _ := ⟨List.cons_ne_nil _ _, by simpa using others, rfl⟩
      have later := ih shorter valued
      cases valued with
      | cons second _ =>
        rw [intercalate_cons] at later ⊢
        rw [intercalate_cons]
        exact (digitRun?_next (second.ne (by decide +kernel))).mpr ⟨value, _, digit, later, rfl⟩

theorem digitRun?_eq_some_iff : digitRun? cs = some values ↔
    ∃ groups, Grouped groups cs ∧ List.Forall₂ IsDigit groups.flatten values := by
  constructor
  · exact grouped_of_digitRun?
  · rintro ⟨groups, grouped, valued⟩
    exact digitRun?_of_grouped grouped valued

theorem digitsValue_concat (values : List Nat) (value : Nat) :
    digitsValue (values ++ [value]) = 10 * digitsValue values + value :=
  List.foldl_concat ..

theorem digitsValue_eq (values : List Nat) : digitsValue values = Nat.ofDigits 10 values.reverse := by
  induction values using List.reverseRecOn with
  | nil => rfl
  | append_singleton values value ih =>
    rw [digitsValue_concat, ih, List.reverse_concat, Nat.ofDigits_cons, Nat.add_comm]

theorem valued_toDigits (n : Nat) :
    ∃ values, List.Forall₂ IsDigit (Nat.toDigits 10 n) values ∧ digitsValue values = n := by
  induction n using Nat.strong_induction_on with
  | _ n ih =>
    rw [Nat.toDigits_eq_if (by decide)]
    split
    · rename_i small
      exact ⟨[n], .cons (Text.isDigit_digitChar small) .nil, by simp [digitsValue]⟩
    · obtain ⟨values, valued, total⟩ := ih (n / 10) (by omega)
      have last : IsDigit (n % 10).digitChar (n % 10) := Text.isDigit_digitChar (by omega)
      refine ⟨values ++ [n % 10], List.rel_append valued (.cons last .nil), ?_⟩
      rw [digitsValue_concat, total]
      omega

inductive Sign where
  | absent | plus | minus
  deriving DecidableEq

namespace Sign

def text : Sign → List Char
  | absent => []
  | plus => ['+']
  | minus => ['-']

def apply : Sign → Nat → Int
  | minus, size => -size
  | _, size => size

def ofInt (n : Int) : Sign := if n < 0 then minus else absent

theorem apply_ofInt (n : Int) : (ofInt n).apply n.natAbs = n := by
  unfold ofInt
  split
  · show -(n.natAbs : Int) = n
    omega
  · show (n.natAbs : Int) = n
    omega

end Sign

theorem exists_sign (cs : List Char) : ∃ sign : Sign, sign.text ++ (splitSign cs).2 = cs ∧
    ∀ size, withSign (splitSign cs).1 size = sign.apply size := by
  unfold splitSign
  split
  · exact ⟨.minus, rfl, fun _ => rfl⟩
  · exact ⟨.plus, rfl, fun _ => rfl⟩
  · exact ⟨.absent, rfl, fun _ => rfl⟩

theorem splitSign_text (sign : Sign) (unsigned : ∀ c ∈ cs.head?, c ≠ '-' ∧ c ≠ '+') :
    ∃ negative, splitSign (sign.text ++ cs) = (negative, cs) ∧
      ∀ size, withSign negative size = sign.apply size := by
  cases sign with
  | minus => exact ⟨true, rfl, fun _ => rfl⟩
  | plus => exact ⟨false, rfl, fun _ => rfl⟩
  | absent =>
    refine ⟨false, ?_, fun _ => rfl⟩
    show splitSign cs = (false, cs)
    unfold splitSign
    split
    · exact absurd rfl (unsigned '-' rfl).1
    · exact absurd rfl (unsigned '+' rfl).2
    · rfl

theorem isNumberBlank_sign (sign : Sign) : ∀ c ∈ sign.text, Text.isNumberBlank c = false := by
  intro c member
  cases sign with
  | absent => cases member
  | plus =>
    obtain rfl := List.mem_singleton.mp member
    decide +kernel
  | minus =>
    obtain rfl := List.mem_singleton.mp member
    decide +kernel

theorem exists_value {c : Char} (valued : List.Forall₂ IsDigit cs values) (member : c ∈ cs) :
    ∃ value, IsDigit c value := by
  induction valued with
  | nil => cases member
  | cons digit _ ih =>
    rcases List.mem_cons.mp member with rfl | member
    · exact ⟨_, digit⟩
    · exact ih member

theorem isNumberBlank_intercalate (valued : List.Forall₂ IsDigit groups.flatten values) :
    ∀ c ∈ ['_'].intercalate groups, Text.isNumberBlank c = false := by
  intro c member
  rcases Text.mem_intercalate member with rfl | inside
  · decide +kernel
  · obtain ⟨value, digit⟩ := exists_value valued inside
    exact digit.not_isNumberBlank

/-- A written whole number: white space, a sign or none, groups of digits with single underscores between
    them, white space. The digits may be of any scripts. -/
structure Numeral where
  before : List Char
  sign : Sign
  groups : List (List Char)
  values : List Nat
  after : List Char
  padded : ∀ c ∈ before ++ after, Text.IsWhiteSpace c
  present : groups ≠ []
  filled : ∀ group ∈ groups, group ≠ []
  valued : List.Forall₂ IsDigit groups.flatten values

namespace Numeral

def text (numeral : Numeral) : String :=
  String.ofList (numeral.before ++ (numeral.sign.text ++ ['_'].intercalate numeral.groups) ++ numeral.after)

def value (numeral : Numeral) : Int := numeral.sign.apply (Nat.ofDigits 10 numeral.values.reverse)

def size (numeral : Numeral) : Nat := numeral.values.length

theorem grouped (numeral : Numeral) : Grouped numeral.groups (['_'].intercalate numeral.groups) :=
  ⟨numeral.present, numeral.filled, rfl⟩

theorem exists_digit (numeral : Numeral) : ∃ c rest value,
    ['_'].intercalate numeral.groups = c :: rest ∧ IsDigit c value := by
  obtain ⟨before, sign, groups, values, after, padded, present, filled, valued⟩ := numeral
  obtain ⟨group, rest, rfl⟩ := List.exists_cons_of_ne_nil present
  obtain ⟨c, group, rfl⟩ := List.exists_cons_of_ne_nil (filled group List.mem_cons_self)
  obtain ⟨value, digit⟩ := exists_value valued (List.mem_cons_self : c ∈ c :: _)
  exact ⟨c, _, value, intercalate_cons c, digit⟩

end Numeral

theorem readInt?_text (numeral : Numeral) : readInt? numeral.text =
    if numeral.size ≤ digitLimit then some numeral.value else none := by
  obtain ⟨c, rest, value, body, digit⟩ := numeral.exists_digit
  have trimmed : Text.trim Text.isNumberBlank numeral.text.toList =
      numeral.sign.text ++ ['_'].intercalate numeral.groups := by
    rw [Numeral.text, String.toList_ofList]
    refine Text.trim_surrounded (fun c member => ?_) (fun c member => ?_) (fun c member => ?_) ?_
    · exact Text.isNumberBlank_iff.mpr (numeral.padded c (List.mem_append_left _ member))
    · exact Text.isNumberBlank_iff.mpr (numeral.padded c (List.mem_append_right _ member))
    · rcases List.mem_append.mp member with sign | inside
      · exact isNumberBlank_sign _ c sign
      · exact isNumberBlank_intercalate numeral.valued c inside
    · rw [body]
      exact List.append_ne_nil_of_right_ne_nil _ (List.cons_ne_nil _ _)
  have unsigned : ∀ c ∈ (['_'].intercalate numeral.groups).head?, c ≠ '-' ∧ c ≠ '+' := by
    rw [body]
    rintro _ ⟨⟩
    exact ⟨digit.ne (by decide +kernel), digit.ne (by decide +kernel)⟩
  obtain ⟨negative, split, signed⟩ := splitSign_text numeral.sign unsigned
  unfold readInt?
  rw [trimmed, split]
  dsimp only
  rw [digitRun?_eq_some_iff.mpr ⟨_, numeral.grouped, numeral.valued⟩]
  show (if numeral.size ≤ digitLimit then some (withSign negative (digitsValue numeral.values)) else none) = _
  rw [signed, digitsValue_eq]
  rfl

theorem numeral_of_readInt? {s : String} {n : Int} (read : readInt? s = some n) :
    ∃ numeral : Numeral, numeral.text = s := by
  obtain ⟨before, after, whole, front, back⟩ := Text.exists_trim Text.isNumberBlank s.toList
  obtain ⟨sign, split, -⟩ := exists_sign (Text.trim Text.isNumberBlank s.toList)
  unfold readInt? at read
  generalize splitSign (Text.trim Text.isNumberBlank s.toList) = parts at split read
  obtain ⟨negative, rest⟩ := parts
  obtain ⟨values, run, -⟩ := Option.bind_eq_some_iff.mp read
  obtain ⟨groups, grouped, valued⟩ := digitRun?_eq_some_iff.mp run
  refine ⟨⟨before, sign, groups, values, after, fun c member => ?_, grouped.present, grouped.filled, valued⟩, ?_⟩
  · rcases List.mem_append.mp member with member | member
    · exact Text.isNumberBlank_iff.mp (front c member)
    · exact Text.isNumberBlank_iff.mp (back c member)
  · show String.ofList (before ++ (sign.text ++ ['_'].intercalate groups) ++ after) = s
    rw [grouped.joined, split, whole, String.ofList_toList]

/-- What is read are exactly the numerals that are not too long, with their values. -/
theorem readInt?_eq_some_iff {s : String} {n : Int} : readInt? s = some n ↔
    ∃ numeral : Numeral, numeral.text = s ∧ numeral.size ≤ digitLimit ∧ numeral.value = n := by
  constructor
  · intro read
    obtain ⟨numeral, rfl⟩ := numeral_of_readInt? read
    rw [readInt?_text] at read
    split at read
    · rename_i short
      exact ⟨numeral, rfl, short, Option.some.inj read⟩
    · cases read
  · rintro ⟨numeral, rfl, short, rfl⟩
    rw [readInt?_text, if_pos short]

theorem toString_eq (n : Int) :
    (toString n).toList = (Sign.ofInt n).text ++ Nat.toDigits 10 n.natAbs := by
  have shown : toString n = n.repr := rfl
  have digits : (Nat.repr n.natAbs).toList = Nat.toDigits 10 n.natAbs := by
    rw [Nat.repr_eq_ofList_toDigits, String.toList_ofList]
  rw [shown, Int.repr_eq_if, Sign.ofInt]
  by_cases negative : n < 0
  · have size : (-n).toNat = n.natAbs := by omega
    rw [if_neg (by omega), if_pos negative, size, String.toList_append, digits]
    rfl
  · have size : n.toNat = n.natAbs := by omega
    rw [if_pos (by omega), if_neg negative, size, digits]
    rfl

theorem exists_numeral {n : Int} {before after : List Char} (padded : ∀ c ∈ before ++ after, Text.IsWhiteSpace c)
    (filled : ∀ group ∈ groups, group ≠ [])
    (written : (Sign.ofInt n).text ++ groups.flatten = (toString n).toList) :
    ∃ numeral : Numeral, numeral.value = n ∧ numeral.size = groups.flatten.length ∧ numeral.text =
      String.ofList (before ++ ((Sign.ofInt n).text ++ ['_'].intercalate groups) ++ after) := by
  obtain ⟨values, valued, total⟩ := valued_toDigits n.natAbs
  have digits : groups.flatten = Nat.toDigits 10 n.natAbs :=
    List.append_cancel_left (written.trans (toString_eq n))
  rw [← digits] at valued
  have present : groups ≠ [] := by
    rintro rfl
    exact Nat.toDigits_ne_nil digits.symm
  refine ⟨⟨before, .ofInt n, groups, values, after, padded, present, filled, valued⟩, ?_, ?_, rfl⟩
  · show (Sign.ofInt n).apply (Nat.ofDigits 10 values.reverse) = n
    rw [← digitsValue_eq, total, Sign.apply_ofInt]
  · exact valued.length_eq.symm

end Number

namespace Environment

open Number

variable {env : Environment} {name raw : String}

theorem int_of_set (set : env.lookup name = some raw) (default : Int) :
    env.int name default = (readInt? raw).getD default := by
  unfold int readInt readOr
  rw [set]
  rfl

/-- A setting is a numeral, whose value it has, or else it has its default. -/
theorem int_reads_numerals (env : Environment) (name : String) (default : Int) :
    (env.lookup name = none → env.int name default = default) ∧
    (∀ numeral : Numeral, env.lookup name = some numeral.text → numeral.size ≤ 4300 →
      env.int name default = numeral.value) ∧
    (∀ raw, env.lookup name = some raw →
      (¬ ∃ numeral : Numeral, numeral.text = raw ∧ numeral.size ≤ 4300) → env.int name default = default) ∧
    ∀ (n : Int) (before after : List Char) (groups : List (List Char)),
      (∀ c ∈ before ++ after, Text.IsWhiteSpace c) → (∀ group ∈ groups, group ≠ []) →
      (Sign.ofInt n).text ++ groups.flatten = (toString n).toList → groups.flatten.length ≤ 4300 →
      env.lookup name = some (String.ofList
        (before ++ ((Sign.ofInt n).text ++ ['_'].intercalate groups) ++ after)) →
      env.int name default = n := by
  have reads (numeral : Numeral) (set : env.lookup name = some numeral.text) (short : numeral.size ≤ 4300) :
      env.int name default = numeral.value := by
    have read : readInt? numeral.text = some numeral.value :=
      readInt?_eq_some_iff.mpr ⟨numeral, rfl, short, rfl⟩
    rw [int_of_set set, read]
    rfl
  refine ⟨fun unset => ?_, reads, fun raw set other => ?_, ?_⟩
  · unfold int
    rw [unset]
    rfl
  · rw [int_of_set set]
    cases read : readInt? raw with
    | none => rfl
    | some n =>
      obtain ⟨numeral, same, short, -⟩ := readInt?_eq_some_iff.mp read
      exact absurd ⟨numeral, same, short⟩ other
  · intro n before after groups padded filled written short set
    obtain ⟨numeral, value, size, text⟩ := exists_numeral padded filled written
    rw [reads numeral (text ▸ set) (size ▸ short), value]

def twoScripts : Numeral where
  before := [' ']
  sign := .plus
  groups := [['1'], ['२', '३']]
  values := [1, 2, 3]
  after := ['\u00a0', '\n']
  padded := List.forall_iff_forall_mem.mp (by decide +kernel)
  present := by decide
  filled := by decide
  valued := .cons (by decide +kernel) (.cons (by decide +kernel) (.cons (by decide +kernel) .nil))

theorem int_reads_numerals_of_twoScripts :
    let env : Environment := [("POOL", " +1_२३\u00a0\n"), ("RETRIES", "1__2"), ("OFFSET", "\t-12_345")]
    twoScripts.text = " +1_२३\u00a0\n" ∧ env.int "POOL" 5 = 123 ∧ env.int "RETRIES" 5 = 5 ∧
      env.int "OFFSET" 5 = -12345 ∧ env.lookup "DELAY" = none ∧ env.int "DELAY" 5 = 5 := by
  intro env
  have spelled : twoScripts.text = " +1_२३\u00a0\n" := by decide +kernel
  have unread : readInt? "1__2" = none := by decide +kernel
  have other : ¬ ∃ numeral : Numeral, numeral.text = "1__2" ∧ numeral.size ≤ 4300 := by
    rintro ⟨numeral, same, short⟩
    cases unread.symm.trans (readInt?_eq_some_iff.mpr ⟨numeral, same, short, rfl⟩)
  obtain ⟨-, reads, -, -⟩ := int_reads_numerals env "POOL" 5
  obtain ⟨-, -, fails, -⟩ := int_reads_numerals env "RETRIES" 5
  obtain ⟨-, -, -, renders⟩ := int_reads_numerals env "OFFSET" 5
  obtain ⟨falls, -⟩ := int_reads_numerals env "DELAY" 5
  refine ⟨spelled, ?_, fails "1__2" rfl other, ?_, rfl, falls rfl⟩
  · exact reads twoScripts (spelled ▸ rfl) (by decide)
  · exact renders (-12345) ['\t'] [] [['1', '2'], ['3', '4', '5']]
      (List.forall_iff_forall_mem.mp (by decide +kernel)) (by decide) (by decide +kernel) (by decide) rfl

/-- The information separators are stripped from a switch, but not from a number. -/
theorem separators_not_stripped :
    let raw := "\x1f7\x1c"
    readInt? (String.ofList (Text.trim Text.isBlank raw.toList)) = some 7 ∧
      Environment.int [("POOL", raw)] "POOL" 300 = 300 := by
  decide +kernel

end Environment

end ContainerWarden
