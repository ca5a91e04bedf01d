import TokenPattern.Document
import TokenPattern.Match

/-!
# Matches as documents

A match is written as an object with its start, its trail and its groups.  The groups are an object,
too: under every name stands the array of the groups with this name.
-/

namespace TokenPattern

/-- Collects neighbours with the same key into one array. -/
def Document.gather : List (String × Document) → List (String × List Document)
  | [] => []
  | (key, d) :: rest =>
    match gather rest with
    | [] => [(key, [d])]
    | (k, ds) :: others =>
      if key = k then (k, d :: ds) :: others else (key, [d]) :: (k, ds) :: others

namespace Match

variable {T : Type}

mutual

/-- A match as a document, given how a trail is written. -/
def toDocument (trail : T → Document) : Match T → Document
  | mk start t groups =>
    .object [("start", .integer start), ("trail", trail t),
      ("groups", .object
        ((Document.gather (groupDocuments trail groups)).map fun e => (e.1, .array e.2)))]

/-- `toDocument` on every group. -/
def groupDocuments (trail : T → Document) : List (String × Match T) → List (String × Document)
  | [] => []
  | (name, m) :: rest => (name, toDocument trail m) :: groupDocuments trail rest

end

/-- Nothing is lost among neighbours. -/
theorem flatMap_gather (entries : List (String × Document)) :
    (Document.gather entries).flatMap (fun e => e.2.map fun d => (e.1, d)) = entries := by
  induction entries with
  | nil => rfl
  | cons e rest ih =>
    obtain ⟨key, d⟩ := e
    simp only [Document.gather]
    split
    · rename_i h
      rw [h] at ih
      simp only [List.flatMap_nil] at ih
      simp [← ih]
    · rename_i k ds others h
      rw [h] at ih
      split
      · rename_i heq
        subst heq
        simp only [List.flatMap_cons, List.map_cons, List.cons_append] at ih ⊢
        rw [ih]
      · simp only [List.flatMap_cons, List.map_cons, List.map_nil, List.cons_append,
          List.nil_append] at ih ⊢
        rw [ih]

end Match

end TokenPattern
