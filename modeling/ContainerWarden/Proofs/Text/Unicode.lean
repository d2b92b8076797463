import Mathlib.Data.List.TakeDrop
import Mathlib.Data.List.TakeWhile
import ContainerWarden.Text.Upper

namespace ContainerWarden.Text

theorem isSurrogate_iff {n : Nat} : isSurrogate n = true ↔ 0xD800 ≤ n ∧ n < 0xE000 := by
  simp [isSurrogate]

theorem isSurrogate_toNat (c : Char) : isSurrogate c.toNat = false := by
  refine Bool.eq_false_iff.mpr fun surrogate => ?_
  have bounds := isSurrogate_iff.mp surrogate
  have valid : c.toNat < 0xD800 ∨ 0xDFFF < c.toNat ∧ c.toNat < 0x110000 := c.valid
  omega

theorem toNat_lt (c : Char) : c.toNat < 0x110000 := by
  have valid : c.toNat < 0xD800 ∨ 0xDFFF < c.toNat ∧ c.toNat < 0x110000 := c.valid
  omega

theorem toNat_ofNat {n : Nat} (valid : n.isValidChar) : (Char.ofNat n).toNat = n := by
  rw [Char.ofNat, dif_pos valid]
  exact UInt32.toNat_ofNatLT ..

theorem read_plain {c : Char} (plain : c ≠ mark) (rest : List Char) : read (c :: rest) = c.toNat :: read rest := by
  cases rest with
  | nil => rfl
  | cons second rest => simp [read, marked?, plain]

theorem marked?_surrogate {point : Nat} (surrogate : isSurrogate point = true) :
    marked? mark (Char.ofNat (point + 0x800)) = some point := by
  have bounds := isSurrogate_iff.mp surrogate
  have own : (Char.ofNat (point + 0x800)).toNat = point + 0x800 := toNat_ofNat (by
    unfold Nat.isValidChar
    omega)
  have other : Char.ofNat (point + 0x800) ≠ mark := by
    intro same
    have code : point + 0x800 = 0x10FFFF := own.symm.trans (congrArg Char.toNat same)
    omega
  simp [marked?, other, own, surrogate, Option.filter]

theorem read_written {point : Nat} (valid : point < 0x110000) (rest : List Char) :
    read (written point ++ rest) = point :: read rest := by
  unfold written
  split
  · rename_i surrogate
    simp [read, marked?_surrogate surrogate]
  · rename_i plain
    have bounds := mt isSurrogate_iff.mpr plain
    have own : (Char.ofNat point).toNat = point := toNat_ofNat (by
      unfold Nat.isValidChar
      omega)
    split
    · rename_i same
      simp [read, marked?, beq_iff_eq.mp same]
    · rename_i other
      have unmarked : Char.ofNat point ≠ mark := by
        intro same
        rw [← same, own, beq_self_eq_true] at other
        exact other rfl
      rw [List.singleton_append, read_plain unmarked, own]

theorem points_ofPoints {codes : List Nat} (valid : ∀ n ∈ codes, n < 0x110000) :
    points (ofPoints codes) = codes := by
  unfold points ofPoints
  rw [String.toList_ofList]
  induction codes with
  | nil => rfl
  | cons n rest ih =>
    obtain ⟨first, others⟩ := List.forall_mem_cons.mp valid
    rw [List.flatMap_cons, read_written first, ih others]

theorem lt_of_mem_read {n : Nat} {cs : List Char} (member : n ∈ read cs) : n < 0x110000 := by
  induction cs using read.induct with
  | case1 first second rest point marked ih =>
    rw [read, marked] at member
    rcases List.mem_cons.mp member with rfl | later
    · unfold marked? at marked
      repeat' split at marked
      · cases marked
      · cases marked
        exact toNat_lt _
      · have surrogate := isSurrogate_iff.mp (Option.filter_eq_some_iff.mp marked).2
        omega
    · exact ih later
  | case2 first second rest plain ih =>
    rw [read, plain] at member
    rcases List.mem_cons.mp member with rfl | later
    · exact toNat_lt first
    · exact ih later
  | case3 last =>
    obtain rfl := List.mem_singleton.mp member
    exact toNat_lt last
  | case4 => cases member

theorem points_ofPoints_points (s : String) : points (ofPoints (points s)) = points s :=
  points_ofPoints fun _ => lt_of_mem_read

def isUnicode (s : String) : Bool := (points s).all fun n => !isSurrogate n

theorem points_ofUnicode (s : String) : points (ofUnicode s) = s.toList.map Char.toNat := by
  refine points_ofPoints fun n member => ?_
  obtain ⟨c, -, rfl⟩ := List.mem_map.mp member
  exact toNat_lt c

/-- Whatever characters a text is made of, it can be encoded. -/
theorem isUnicode_ofUnicode (s : String) : isUnicode (ofUnicode s) = true := by
  rw [isUnicode, points_ofUnicode, List.all_eq_true]
  intro n member
  obtain ⟨c, -, rfl⟩ := List.mem_map.mp member
  rw [isSurrogate_toNat, Bool.not_false]

theorem firstRun?_eq_none {kind : Nat → Bool} {s : String} :
    firstRun? kind s = none ↔ ∀ n ∈ points s, kind n = false := by
  unfold firstRun?
  rw [List.span_eq_takeWhile_dropWhile]
  cases rest : (points s).dropWhile fun n => !kind n with
  | nil =>
    have all : ∀ n ∈ points s, kind n = false := by simpa [List.dropWhile_eq_nil_iff] using rest
    simpa using all
  | cons n others =>
    have kept : kind n = true := by
      have head := List.head?_dropWhile_not (fun n => !kind n) (points s)
      rw [rest] at head
      simpa using head
    have member : n ∈ points s :=
      (List.dropWhile_suffix _).subset (by rw [rest]; exact List.mem_cons_self)
    simp only [reduceCtorEq, false_iff]
    intro none
    cases kept.symm.trans (none n member)

theorem unencodable?_eq_none {s : String} : unencodable? s = none ↔ isUnicode s = true := by
  unfold unencodable? unencodableBut? isUnicode
  rw [Option.map_eq_none_iff, firstRun?_eq_none, List.all_eq_true]
  simp

def IsPlain (n : Nat) : Prop := n < 0x110000 ∧ isSurrogate n = false

instance : Decidable (IsPlain n) := inferInstanceAs (Decidable (_ ∧ _))

theorem IsPlain.toNat_ofNat {n : Nat} (plain : IsPlain n) : (Char.ofNat n).toNat = n := by
  have valid := plain.1
  have apart := mt isSurrogate_iff.mpr (Bool.eq_false_iff.mp plain.2)
  refine Text.toNat_ofNat ?_
  unfold Nat.isValidChar
  omega

theorem plain_of_lt {n : Nat} (low : n < 0xD800) : IsPlain n := by
  refine ⟨by omega, Bool.eq_false_iff.mpr fun surrogate => ?_⟩
  have bounds := isSurrogate_iff.mp surrogate
  omega

theorem plain_of_le {n : Nat} (high : 0xE000 ≤ n) (valid : n < 0x110000) : IsPlain n := by
  refine ⟨valid, Bool.eq_false_iff.mpr fun surrogate => ?_⟩
  have bounds := isSurrogate_iff.mp surrogate
  omega

theorem upperExpansions_plain :
    upperExpansions.all (fun (n, letters) => n < 0xD800 && letters.all (· < 0xD800) ||
      0xE000 ≤ n && n < 0x110000 && letters.all (· < 0xD800)) = true := by
  decide +kernel

/-- No case run touches the surrogates, neither with its letters nor with their upper case. -/
theorem caseRuns_plain :
    caseRuns.all (fun run => (run.first + run.count * run.step ≤ 0xD800 || 0xE000 ≤ run.first) &&
      (run.first + run.count * run.step + run.shift ≤ 0xD800 || 0xE000 ≤ run.first + run.shift) &&
      run.first + run.count * run.step ≤ 0x110000 &&
      run.first + run.count * run.step + run.shift ≤ 0x110000) = true := by
  decide +kernel

theorem upperPoint_plain {n : Nat} (valid : n < 0x110000) :
    IsPlain n ∧ (∀ m ∈ upperPoint n, IsPlain m) ∨ isSurrogate n = true ∧ upperPoint n = [n] := by
  unfold upperPoint
  split
  · rename_i ascii
    have table : ∀ n < 0x80, (Char.ofNat n).toUpper.toNat < 0xD800 := by decide +kernel
    refine .inl ⟨plain_of_lt (by omega), fun m member => ?_⟩
    obtain rfl := List.mem_singleton.mp member
    exact plain_of_lt (table n ascii)
  · split
    · rename_i letters found
      obtain ⟨before, after, table, -⟩ := List.lookup_eq_some_iff.mp found
      have entry := List.all_eq_true.mp upperExpansions_plain (n, letters) (by simp [table])
      simp only [Bool.or_eq_true, Bool.and_eq_true, decide_eq_true_eq, List.all_eq_true] at entry
      rcases entry with ⟨low, small⟩ | ⟨⟨high, -⟩, small⟩
      · exact .inl ⟨plain_of_lt low, fun m member => plain_of_lt (small m member)⟩
      · exact .inl ⟨plain_of_le high valid, fun m member => plain_of_lt (small m member)⟩
    · split
      · rename_i run found
        have entry := List.all_eq_true.mp caseRuns_plain run (List.mem_of_find?_eq_some found)
        have inside := List.find?_some found
        simp only [Bool.and_eq_true, Bool.or_eq_true, decide_eq_true_eq] at entry
        simp only [CaseRun.contains, Bool.and_eq_true, decide_eq_true_eq] at inside
        refine .inl ⟨?_, fun m member => ?_⟩
        · rcases entry.1.1.1 with low | high
          · exact plain_of_lt (by omega)
          · exact plain_of_le (by omega) valid
        · obtain rfl := List.mem_singleton.mp member
          rcases entry.1.1.2 with low | high
          · exact plain_of_lt (by omega)
          · exact plain_of_le (by omega) (by omega)
      · cases surrogate : isSurrogate n with
        | true => exact .inr ⟨rfl, rfl⟩
        | false =>
          refine .inl ⟨⟨valid, surrogate⟩, fun m member => ?_⟩
          obtain rfl := List.mem_singleton.mp member
          exact ⟨valid, surrogate⟩

theorem points_upper (s : String) : points (upper s) = (points s).flatMap upperPoint := by
  refine points_ofPoints fun m member => ?_
  obtain ⟨n, inside, letter⟩ := List.mem_flatMap.mp member
  have valid : n < 0x110000 := lt_of_mem_read inside
  rcases upperPoint_plain valid with ⟨-, plain⟩ | ⟨-, own⟩
  · exact (plain m letter).1
  · rw [own] at letter
    obtain rfl := List.mem_singleton.mp letter
    exact valid

/-- A text has surrogates in upper case only if it has some already. -/
theorem isUnicode_upper (s : String) : isUnicode (upper s) = isUnicode s := by
  unfold isUnicode
  rw [points_upper, List.all_flatMap, Bool.eq_iff_iff, List.all_eq_true, List.all_eq_true]
  refine forall₂_congr fun n inside => ?_
  rcases upperPoint_plain (lt_of_mem_read inside) with ⟨plain, letters⟩ | ⟨surrogate, own⟩
  · have small : (upperPoint n).all (fun m => !isSurrogate m) = true :=
      List.all_eq_true.mpr fun m letter => by rw [(letters m letter).2, Bool.not_false]
    simp [small, plain.2]
  · simp [own]

end ContainerWarden.Text
