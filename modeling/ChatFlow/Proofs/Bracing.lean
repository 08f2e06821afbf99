/-
This file shows that a list may stand between braces: a loop goes over the same items as without
them.

Braces make a text of the list, which is then looked at three times: whether it is a literal,
whether blanks stand around it, and whether it writes a list. The text of a list begins and ends
with brackets, whatever the items are. No literal begins so, and nothing is trimmed, so the text
comes to the reader as it was written.
-/

import ChatFlow.Proofs.Paths
import ChatFlow.Proofs.Spelling
import ChatFlow.Run.Loop

namespace ChatFlow

variable {items : List Json}

namespace Json

theorem trim_write_array (items : List Json) :
    Text.trim (array items).write = (array items).write := by
  have ends : (array items).write.getLast? = some ']' := by
    rw [write, List.cons_append, List.getLast?_cons, List.getLast?_concat]
    rfl
  exact Text.trim_of_ends rfl ends (by decide) (by decide)

/-- What is written for a list is no literal. -/
theorem literalValue_compact_array (items : List Json) :
    literalValue (.string (array items).compact) = .string (array items).compact := by
  have unread : Literal.ofText? (array items).compact.toList = none := by
    rw [compact, String.toList_ofList, Literal.ofText?, trim_write_array]
    exact Literal.ofTrimmed?_of_head (by decide) (by decide) (by decide) (by decide) (by decide)
  rw [literalValue, unread, Option.getD_none]

end Json

/-- What is written for a list lists its items. -/
theorem itemsOf_compact_array (legible : (Json.array items).Legible)
    (shallow : (Json.array items).depth ≤ Reader.depthLimit) :
    itemsOf (some (.string (Json.array items).compact)) = items := by
  have read := Json.parse_write .compact legible shallow
  rw [Form.write_compact] at read
  have letters : Text.trim (Json.array items).compact.toList = (Json.array items).write := by
    rw [Json.compact, String.toList_ofList, Json.trim_write_array]
  have opened : (Json.array items).write.head? = some '[' := rfl
  rw [itemsOf, letters, itemsOfText, if_pos opened, read]

/-- A list at the end of a path has the same items with braces around the path and without: its own,
in order. The numbers in it are to be read back as they are written, and it may nest as far as
the reader goes. -/
theorem Expression.itemsOf_braced_path {context : Context} {path : String}
    (shaped : Path.isShaped path.toList = true) (rooted : Path.IsRooted path)
    (held : Path.resolve context path = some (.array items)) (legible : (Json.array items).Legible)
    (shallow : (Json.array items).depth ≤ 127) (outside other : Outside) :
    itemsOf (resolve context outside ("\x7b\x7b" ++ path ++ "\x7d\x7d")) = items ∧
      itemsOf (resolve context other path) = items := by
  constructor
  · rw [resolve_braced shaped rooted, held]
    rw [show Resolved.toText (some (Json.array items)) = (Json.array items).compact from rfl,
      Json.literalValue_compact_array, itemsOf_compact_array legible shallow]
  · rw [resolve_path shaped rooted, held]
    rfl

/-- Texts with commas, quotes and braces, a number, and lists in a list. -/
def wilyItems : List Json := [
  .string "a, b", .string "[\"c\", 'd']", .string "\x7b\x7bvars.xs\x7d\x7d", Json.ofNat 7,
  .array [.array [], .null]]

theorem wilyItems_braced :
    let context := Context.empty.setVariable "xs" (.array wilyItems)
    let outside : Outside := ⟨0, fun _ => 0⟩
    itemsOf (Expression.resolve context outside "\x7b\x7bvars.xs\x7d\x7d") = wilyItems := by
  intro context outside
  have shaped : Path.isShaped "vars.xs".toList = true := by decide
  have rooted : Path.IsRooted "vars.xs" := ⟨"vars", by decide, ["xs"], by decide⟩
  have fits : (Number.integer 7).WellFormed := ⟨by decide, by decide⟩
  have legible : (Json.array wilyItems).Legible := by
    constructor
    · simpa [Json.WellFormed, Json.WellFormedItems, wilyItems, Json.ofNat] using fits
    · simpa [Json.ReadsBack, Json.ReadsBackItems, wilyItems, Json.ofNat] using
        Number.readsBack_integer fits
  exact (Expression.itemsOf_braced_path shaped rooted
    (show Path.resolve context "vars.xs" = _ by with_unfolding_all rfl) legible (by decide)
    outside outside).1

end ChatFlow
