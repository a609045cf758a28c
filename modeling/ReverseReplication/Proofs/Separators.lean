/-!
# Texts with a separator

A text ends its first part where a separator stands for the first time. So cutting there gives back
the parts that were put together (`Text.parts_append`), what is cut was put together from the parts
(`Text.parts_of_dropWhile`), and a text has its parts in one way only (`Text.parts_inj`). All of
this holds as long as the first part is free of separators, whatever the second one is.
-/

namespace ReverseReplication.Text

variable {c : Char} {front front' back back' cs : List Char}

/-- Characters without a separator are all that stands before the first one. -/
theorem parts_append (h : c ∉ front) (back : List Char) :
    (front ++ c :: back).takeWhile (· ≠ c) = front ∧
      (front ++ c :: back).dropWhile (· ≠ c) = c :: back := by
  have hall : ∀ d ∈ front, decide (d ≠ c) = true := by
    intro d hd
    rw [decide_eq_true_eq]
    rintro rfl
    exact h hd
  constructor
  · rw [List.takeWhile_append_of_pos hall]
    simp
  · rw [List.dropWhile_append_of_pos hall]
    simp

/-- What is left behind the characters before the first separator begins with it. -/
theorem parts_of_dropWhile {d : Char} (h : cs.dropWhile (· ≠ c) = d :: back) :
    cs = cs.takeWhile (· ≠ c) ++ c :: back ∧ c ∉ cs.takeWhile (· ≠ c) := by
  have hseparator : d = c := by
    have hfirst := List.head?_dropWhile_not (· ≠ c) cs
    rw [h] at hfirst
    simpa using hfirst
  constructor
  · calc cs = cs.takeWhile (· ≠ c) ++ cs.dropWhile (· ≠ c) :=
          List.takeWhile_append_dropWhile.symm
      _ = cs.takeWhile (· ≠ c) ++ c :: back := by rw [h, hseparator]
  · intro hmem
    have hne := List.all_eq_true.1 List.all_takeWhile c hmem
    simp at hne

/-- Separators behind the first belong to the second part. -/
theorem parts_inj (h : c ∉ front) (h' : c ∉ front')
    (heq : front ++ c :: back = front' ++ c :: back') : front = front' ∧ back = back' := by
  obtain ⟨htake, hdrop⟩ := parts_append h back
  obtain ⟨htake', hdrop'⟩ := parts_append h' back'
  rw [heq, htake'] at htake
  rw [heq, hdrop'] at hdrop
  exact ⟨htake.symm, (List.cons.inj hdrop.symm).2⟩

end ReverseReplication.Text
