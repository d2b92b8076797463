namespace ContainerWarden.Text

def pieces (mark : Char) (s : String) : List String := (s.toList.splitOn mark).map String.ofList

theorem mem_intercalate {mark c : Char} {parts : List (List Char)} (member : c ∈ [mark].intercalate parts) :
    c = mark ∨ c ∈ parts.flatten := by
  induction parts with
  | nil => cases member
  | cons part rest ih =>
    cases rest with
    | nil => exact .inr (by simpa using member)
    | cons next more =>
      rw [List.intercalate_cons_cons, List.mem_append, List.mem_append, List.mem_singleton] at member
      rcases member with (own | mark) | later
      · exact .inr (List.mem_append_left _ own)
      · exact .inl mark
      · exact (ih later).imp_right (List.mem_append_right _)

end ContainerWarden.Text
