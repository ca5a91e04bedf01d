import TokenPattern.Document

/-!
# Configured patterns

A `PatternConfig` is a pattern as data: its leaves name a matcher type by URL and carry the content
that this type expects.  A `Registry` turns it into an expression.
-/

namespace TokenPattern

/-- A matcher type by URL, with its content. -/
structure MatcherRef where
  typeUrl : String
  config : Document

/-- A pattern as data. -/
inductive PatternConfig where
  /-- One token that a matcher accepts or, when negated, rejects. -/
  | leaf (matcher : MatcherRef) (negate : Bool)
  /-- The tokens that a literal stands for. -/
  | literal (value : Document)
  /-- Any token. -/
  | any
  /-- All items in order. -/
  | concat (items : List PatternConfig)
  /-- One of the items. -/
  | alt (items : List PatternConfig)
  /-- The pattern or nothing. -/
  | maybe (pattern : PatternConfig)
  /-- A number of repetitions between two bounds, either of which may be absent. -/
  | repetition (pattern : PatternConfig) (min max : Option Int)
  /-- The pattern as a named group. -/
  | capture (name : String) (pattern : PatternConfig)

namespace PatternConfig

mutual

/-- The number of patterns on the longest way down; a lone leaf has depth one. -/
def depth : PatternConfig → Nat
  | leaf _ _ | literal _ | any => 1
  | concat items | alt items => 1 + itemsDepth items
  | maybe pattern | repetition pattern _ _ | capture _ pattern => 1 + pattern.depth

/-- The depth of the deepest item. -/
def itemsDepth : List PatternConfig → Nat
  | [] => 0
  | item :: rest => max item.depth (itemsDepth rest)

end

/-- Every pattern has a depth. -/
theorem depth_pos (c : PatternConfig) : 0 < c.depth := by
  cases c <;> simp only [depth] <;> omega

/-- An item is no deeper than the deepest one. -/
theorem depth_le_itemsDepth {c : PatternConfig} {items : List PatternConfig} (h : c ∈ items) :
    c.depth ≤ itemsDepth items := by
  induction items with
  | nil => cases h
  | cons item rest ih =>
    simp only [itemsDepth]
    rcases List.mem_cons.1 h with rfl | h
    · exact Nat.le_max_left _ _
    · exact Nat.le_trans (ih h) (Nat.le_max_right _ _)

end PatternConfig

end TokenPattern
