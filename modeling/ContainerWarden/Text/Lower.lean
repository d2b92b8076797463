import ContainerWarden.Text.Upper

namespace ContainerWarden.Text

def CaseRun.reversed (run : CaseRun) : CaseRun :=
  { run with first := (run.first + run.shift).toNat, shift := -run.shift }

/-- Letters whose lower case is not that of the letter which their case run leads back to: letters in
    title case, and those that share their lower case with another letter. -/
def lowerRuns : List CaseRun :=
  [⟨0x1C4, 1, 1, 2⟩, ⟨0x1C5, 1, 1, 1⟩, ⟨0x1C7, 1, 1, 2⟩, ⟨0x1C8, 1, 1, 1⟩, ⟨0x1CA, 1, 1, 2⟩,
    ⟨0x1CB, 1, 1, 1⟩, ⟨0x1F1, 1, 1, 2⟩, ⟨0x1F2, 1, 1, 1⟩, ⟨0x3F4, 1, 1, -60⟩,
    ⟨0x1E9E, 1, 1, -7615⟩, ⟨0x1F88, 8, 1, -8⟩, ⟨0x1F98, 8, 1, -8⟩, ⟨0x1FA8, 8, 1, -8⟩,
    ⟨0x1FBC, 1, 1, -9⟩, ⟨0x1FCC, 1, 1, -9⟩, ⟨0x1FFC, 1, 1, -9⟩, ⟨0x2126, 1, 1, -7517⟩,
    ⟨0x212A, 1, 1, -8383⟩, ⟨0x212B, 1, 1, -8262⟩]

def longestRun? (n : Nat) (runs : List CaseRun) : Option CaseRun :=
  (runs.filter (·.contains n)).foldl
    (fun best run =>
      match best with
      | some longer => if longer.count < run.count then some run else best
      | none => some run)
    none

def lowerChar (c : Char) : List Char :=
  if c.toNat < 0x80 then [c.toLower]
  else if c.toNat == 0x130 then ['i', '\u0307']
  else
    let run? := (lowerRuns.find? (·.contains c.toNat)).orElse fun _ =>
      longestRun? c.toNat (caseRuns.map CaseRun.reversed)
    match run? with
    | some run => [Char.ofNat (c.toNat + run.shift).toNat]
    | none => [c]

def isCased (c : Char) : Bool := lowerChar c != [c] || upperPoint c.toNat != [c.toNat]

def isInsideWord (c : Char) : Bool := "'.:^`".toList.contains c

/-- The lower case of what follows a letter or does not. A sigma at the end of a word has a form of its
    own. -/
def lowerAfter (letter : Bool) : List Char → List Char
  | [] => []
  | c :: rest =>
    let isLast := letter && !((rest.dropWhile isInsideWord).head?.any isCased)
    let small := if c == 'Σ' && isLast then ['ς'] else lowerChar c
    small ++ lowerAfter (if isInsideWord c then letter else isCased c) rest

def lower (s : String) : String := String.ofList (lowerAfter false s.toList)

end ContainerWarden.Text
