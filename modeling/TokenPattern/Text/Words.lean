import TokenPattern.Unicode.Property

/-!
# The words of a text

A word is a longest stretch without white space.
-/

namespace TokenPattern.Text

/-- The nonempty stretches of other characters between separators; `word` holds the characters of
the stretch that is being read, last first. -/
def fieldsFrom (isSeparator : Char → Bool) (word : List Char) : List Char → List String
  | [] => if word.isEmpty then [] else [String.ofList word.reverse]
  | c :: rest =>
    if isSeparator c then
      if word.isEmpty then fieldsFrom isSeparator [] rest
      else String.ofList word.reverse :: fieldsFrom isSeparator [] rest
    else fieldsFrom isSeparator (c :: word) rest

/-- The words of a text, divided at white space. -/
def words (text : String) : List String :=
  fieldsFrom Unicode.isWhiteSpace [] text.toList

/-- Words are not empty. -/
theorem ne_empty_of_mem_fieldsFrom {isSeparator : Char → Bool} {word cs : List Char}
    {w : String} (h : w ∈ fieldsFrom isSeparator word cs) : w ≠ "" := by
  induction cs generalizing word with
  | nil =>
    simp only [fieldsFrom] at h
    split at h
    · cases h
    · rename_i hne
      rw [List.mem_singleton] at h
      subst h
      intro hempty
      have := congrArg String.toList hempty
      simp at this
      simp [this] at hne
  | cons c rest ih =>
    simp only [fieldsFrom] at h
    split at h
    · split at h
      · exact ih h
      · rename_i hne
        rcases List.mem_cons.1 h with rfl | h
        · intro hempty
          have := congrArg String.toList hempty
          simp at this
          simp [this] at hne
        · exact ih h
    · exact ih h

end TokenPattern.Text
