/-!
# Patterns

A pattern is tried at one place of a text. It either fails there, or gives what replaces the
characters it took and the text after them. Replacing goes from left to right: a pattern is tried
at each character that no earlier match took, and what it puts in is never looked at again.
-/

namespace PageSearch.Markup

/-- What a pattern finds at the start of a text: the replacement and the rest. -/
abbrev Pattern := List Char → Option (List Char × List Char)

/-- Replaces every match of a pattern. A match has to take at least one character. -/
def Pattern.replaceAll (pattern : Pattern) : List Char → List Char
  | [] => []
  | c :: rest =>
    match pattern (c :: rest) with
    | none => c :: replaceAll pattern rest
    | some (replacement, after) =>
      if after.length ≤ rest.length then replacement ++ replaceAll pattern after
      else c :: replaceAll pattern rest
termination_by s => s.length

/-- The text after the first `c`. -/
def dropThrough (c : Char) : List Char → Option (List Char)
  | [] => none
  | d :: rest => if d = c then some rest else dropThrough c rest

/-- The text after `lead`, if it starts with it. -/
def dropLead : List Char → List Char → Option (List Char)
  | [], s => some s
  | _ :: _, [] => none
  | l :: lead, c :: s => if c = l then dropLead lead s else none

/-- The text after the first place where `ending` matches, `ending` giving what follows it. -/
def dropThroughFirst (ending : List Char → Option (List Char)) : List Char → Option (List Char)
  | [] => ending []
  | c :: rest =>
    match ending (c :: rest) with
    | some after => some after
    | none => dropThroughFirst ending rest

/-- What is left after a beginning is what follows it. -/
theorem dropLead_eq_some_iff {lead s t : List Char} :
    dropLead lead s = some t ↔ s = lead ++ t := by
  induction lead generalizing s with
  | nil => simp [dropLead]
  | cons l lead ih =>
    cases s with
    | nil => simp [dropLead]
    | cons c s =>
      by_cases same : c = l
      · simp [dropLead, same, ih]
      · simp [dropLead, same]

end PageSearch.Markup
