/-
This file shows that a path is read as a path, in an expression and between braces.

An expression is tried as a word, a literal and a call before it is tried as a path. None of these
begins like a path that leads into the context: its first character is a letter or one of two
signs, neither a digit nor a quote, and no character of it is blank, a parenthesis or a brace. A
placeholder for such a path comes to what the text at the end of the path would be as a literal.
-/

import ChatFlow.Proofs.Integers
import ChatFlow.Proofs.Permissions
import ChatFlow.Run.Intent

namespace ChatFlow

/-! ### Letters and blanks -/

namespace Text

/-- No code point lies in a range of both sets. -/
def Ranges.Apart (left right : Ranges) : Prop :=
  ∀ range ∈ left, ∀ other ∈ right, range.2 < other.1 ∨ other.2 < range.1

instance (left right : Ranges) : Decidable (left.Apart right) :=
  inferInstanceAs (Decidable (∀ range ∈ left, ∀ other ∈ right, _))

theorem Ranges.Apart.holds_eq_false {left right : Ranges} (apart : left.Apart right)
    {letter : Char} (inside : left.holds letter = true) : right.holds letter = false := by
  obtain ⟨range, among, within⟩ := List.any_eq_true.mp inside
  refine List.any_eq_false.mpr fun other member => ?_
  have disjoint := apart range among other member
  simp only [Bool.and_eq_true, decide_eq_true_iff] at within ⊢
  omega

theorem alphabetic_apart_blank : alphabeticRanges.Apart blankRanges := by decide +kernel

theorem numeric_apart_blank : numericRanges.Apart blankRanges := by decide +kernel

theorem isBlank_eq_false_of_isAlphanumeric {letter : Char}
    (word : isAlphanumeric letter = true) : isBlank letter = false := by
  by_cases plain : letter.toNat < 128
  · have each : ∀ code < 128, isPlainAlphanumeric (Char.ofNat code) = true →
        isBlank (Char.ofNat code) = false := by decide +kernel
    rw [isAlphanumeric, if_pos plain] at word
    have blank := each letter.toNat plain
    rw [Char.ofNat_toNat] at blank
    exact blank word
  · rw [isAlphanumeric, if_neg plain, Bool.or_eq_true] at word
    rcases word with alphabetic | numeric
    · exact alphabetic_apart_blank.holds_eq_false alphabetic
    · exact numeric_apart_blank.holds_eq_false numeric

/-- A character of a text is the separator or stands in a piece of the text. -/
theorem eq_or_mem_of_mem_split (separator : Char) {letter : Char} {text : List Char}
    (member : letter ∈ text) :
    letter = separator ∨ ∃ piece ∈ split separator text, letter ∈ piece := by
  induction text with
  | nil => cases member
  | cons first rest inductionHypothesis =>
    rw [split]
    split
    · rename_i same
      rcases List.mem_cons.mp member with rfl | later
      · exact .inl same
      · refine (inductionHypothesis later).imp_right ?_
        rintro ⟨piece, among, inside⟩
        exact ⟨piece, List.mem_cons_of_mem _ among, inside⟩
    · obtain ⟨others, pieces⟩ := split_eq_cons separator rest
      rw [pieces] at inductionHypothesis ⊢
      rcases List.mem_cons.mp member with rfl | later
      · exact .inr ⟨_, List.mem_cons_self, List.mem_cons_self⟩
      · refine (inductionHypothesis later).imp_right ?_
        rintro ⟨piece, among, inside⟩
        rcases List.mem_cons.mp among with rfl | further
        · exact ⟨_, List.mem_cons_self, List.mem_cons_of_mem _ inside⟩
        · exact ⟨piece, List.mem_cons_of_mem _ further, inside⟩

theorem prefix_of_splitOnce {separator : Char} {text before after : List Char}
    (found : splitOnce separator text = some (before, after)) : before <+: text := by
  rw [(splitOnce_eq_some_iff.mp found).1]
  exact List.prefix_append before _

end Text

/-! ### What a path is made of -/

namespace Path

/-- A character of a path. -/
def IsPart (letter : Char) : Prop :=
  isSegmentPart letter = true ∨ letter = '-' ∨ letter = '.'

instance (letter : Char) : Decidable (IsPart letter) :=
  inferInstanceAs (Decidable (_ ∨ _))

theorem IsPart.isBlank_eq_false {letter : Char} (part : IsPart letter) :
    Text.isBlank letter = false := by
  rcases part with segment | rfl | rfl
  · rw [isSegmentPart, Bool.or_eq_true, Bool.or_eq_true, decide_eq_true_iff,
      decide_eq_true_iff] at segment
    rcases segment with (word | rfl) | rfl
    · exact Text.isBlank_eq_false_of_isAlphanumeric word
    · decide
    · decide
  · decide
  · decide

variable {text : List Char} (shaped : isShaped text = true)

include shaped

theorem isPart_of_isShaped {letter : Char} (member : letter ∈ text) : IsPart letter := by
  rw [isShaped] at shaped
  rcases Text.eq_or_mem_of_mem_split '.' member with separator | ⟨piece, among, inside⟩
  · exact .inr (.inr separator)
  · split at shaped
    · rename_i nothing
      rw [nothing] at among
      cases among
    · rename_i root segments pieces
      rw [pieces] at among
      rw [Bool.and_eq_true] at shaped
      rcases List.mem_cons.mp among with rfl | further
      · cases piece with
        | nil => cases inside
        | cons first rest =>
          rw [isRootShaped, Bool.and_eq_true] at shaped
          exact .inl (List.all_eq_true.mp shaped.1.2 letter inside)
      · have segment := List.all_eq_true.mp shaped.2 piece further
        rw [isSegmentShaped, Bool.and_eq_true] at segment
        have part := List.all_eq_true.mp segment.2 letter inside
        rw [Bool.or_eq_true, decide_eq_true_iff] at part
        exact part.imp_right .inl

theorem not_mem_of_isShaped {letter : Char} (other : ¬ IsPart letter) : letter ∉ text :=
  fun member => other (isPart_of_isShaped shaped member)

theorem trim_of_isShaped : Text.trim text = text :=
  Text.trim_eq_self
    (fun nonempty => (isPart_of_isShaped shaped (List.head_mem nonempty)).isBlank_eq_false)
    (fun nonempty => (isPart_of_isShaped shaped (List.getLast_mem nonempty)).isBlank_eq_false)

theorem exists_first_of_isShaped :
    ∃ first rest, text = first :: rest ∧ isSegmentPart first = true ∧ first.isDigit = false := by
  obtain ⟨others, pieces⟩ := Text.split_eq_cons '.' text
  rw [isShaped, pieces] at shaped
  cases text with
  | nil => cases shaped
  | cons first rest =>
    refine ⟨first, rest, rfl, ?_⟩
    by_cases point : first = '.'
    · rw [List.takeWhile_cons_of_neg (by simpa using point)] at shaped
      cases shaped
    · rw [List.takeWhile_cons_of_pos (by simpa using point)] at shaped
      dsimp only at shaped
      rw [isRootShaped, Bool.and_eq_true, Bool.and_eq_true, List.all_cons, Bool.and_eq_true,
        Bool.not_eq_true'] at shaped
      exact ⟨shaped.1.2.1, shaped.1.1⟩

omit shaped

/-- A word that is no field of the context is not a path into it. -/
theorem IsRooted.ne {word : String} (rooted : IsRooted (String.ofList text))
    (single : '.' ∉ word.toList) (unknown : word ∉ roots) : text ≠ word.toList := by
  rintro rfl
  obtain ⟨root, known, segments, pieces⟩ := rooted
  rw [Text.pieces, String.toList_ofList, Text.split_of_not_mem single] at pieces
  cases pieces
  rw [String.ofList_toList] at known
  exact unknown known

end Path

/-! ### What is no number and no literal -/

theorem Decimal.prefix_of_cutExponent (text : List Char) : (cutExponent text).1 <+: text := by
  rw [cutExponent]
  split
  · exact List.prefix_rfl
  · exact List.takeWhile_prefix _

theorem Decimal.prefix_of_cutPoint (text : List Char) : (cutPoint text).1 <+: text := by
  rw [cutPoint]
  split
  · exact List.prefix_rfl
  · rename_i whole fraction found
    exact Text.prefix_of_splitOnce found

section

variable {first : Char} {rest : List Char} (digit : first.isDigit = false)
  (minus : first ≠ '-')

include digit minus

theorem Decimal.isNumber_eq_false_of_first : isNumber (first :: rest) = false := by
  have unsigned : Text.afterStart ['-'] (first :: rest) = none := by
    rw [Text.afterStart, if_neg minus.symm]
  have begins := (prefix_of_cutPoint _).trans (prefix_of_cutExponent (first :: rest))
  rw [isNumber, unsigned, Option.getD_none]
  dsimp only
  suffices whole : isDigits (cutPoint (cutExponent (first :: rest)).1).1 = false by
    rw [whole]
    rfl
  cases start : (cutPoint (cutExponent (first :: rest)).1).1 with
  | nil => rfl
  | cons letter letters =>
    rw [start] at begins
    rw [(List.cons_prefix_cons.mp begins).1, isDigits, List.all_cons, digit, Bool.false_and,
      Bool.and_false]

/-- A text is no literal if it is none of the words and begins with neither a digit nor a minus sign
nor a quote. -/
theorem Literal.ofTrimmed?_of_first (double : first ≠ '"') (single : first ≠ '\'')
    (unlike : ∀ word ∈ ["true", "false", "null"], first :: rest ≠ word.toList) :
    ofTrimmed? (first :: rest) = none := by
  rw [ofTrimmed?, if_neg (unlike "true" (by decide)), if_neg (unlike "false" (by decide)),
    if_neg (unlike "null" (by decide)), unquoted?_of_first double single]
  dsimp only
  rw [Decimal.isNumber_eq_false_of_first digit minus]
  rfl

/-- The same, where none of the words begins like the text. -/
theorem Literal.ofTrimmed?_of_head (double : first ≠ '"') (single : first ≠ '\'')
    (unlike : ∀ word ∈ ["true", "false", "null"], word.toList.head? ≠ some first) :
    ofTrimmed? (first :: rest) = none :=
  ofTrimmed?_of_first digit minus double single fun word member same =>
    unlike word member (same ▸ rfl)

end

/-! ### Placeholders -/

/-- A text between braces. -/
def Pieces.inBraces (inside : List Char) : List Char :=
  '\x7b' :: '\x7b' :: (inside ++ ['\x7d', '\x7d'])

theorem Pieces.ofText_inBraces {inside : List Char} (closed : '\x7d' ∉ inside) :
    ofText (inBraces inside) = ⟨[⟨[], inside⟩], []⟩ := by
  have unclosed : ¬ ['\x7d', '\x7d'] <:+: inside ++ ['\x7d'] := by
    intro braces
    have twice := braces.sublist.count_le '\x7d'
    rw [List.count_append, List.count_eq_zero.mpr closed] at twice
    exact absurd twice (by decide)
  have unopened : ¬ ['\x7b', '\x7b'] <:+: [] ++ ['\x7b'] := by decide
  have found : next? (inBraces inside) = some (⟨[], inside⟩, []) :=
    next?_eq_some_iff.mpr ⟨rfl, unopened, unclosed⟩
  have ended : ofText [] = ⟨[], []⟩ := by with_unfolding_all rfl
  rw [ofText_of_next? found, ended]

/-! ### Paths in expressions -/

namespace Expression

/-- A path into the context is read as one. -/
theorem parse_path {path : String} (shaped : Path.isShaped path.toList = true)
    (rooted : Path.IsRooted path) : parse path.toList = .path path := by
  replace rooted : Path.IsRooted (String.ofList path.toList) := by rwa [String.ofList_toList]
  obtain ⟨first, rest, begins, segment, digit⟩ := Path.exists_first_of_isShaped shaped
  have unlike : ∀ word ∈ ["true", "false", "null", "undefined"], path.toList ≠ word.toList := by
    intro word member
    refine rooted.ne ?_ ?_
    · revert word
      decide
    · revert word
      decide
  have apart : ∀ other : Char, Path.isSegmentPart other = false → first ≠ other := by
    rintro other outside rfl
    rw [segment] at outside
    cases outside
  have literal : Literal.ofTrimmed? path.toList = none := by
    rw [begins] at unlike ⊢
    refine Literal.ofTrimmed?_of_first digit (apart _ (by decide)) (apart _ (by decide))
      (apart _ (by decide)) fun word member => unlike word ?_
    exact List.mem_of_mem_take (i := 3) member
  have call : Call.ofTrimmed? path.toList = none :=
    Call.ofTrimmed?_of_not_mem (Path.not_mem_of_isShaped shaped (by decide))
  have bare : Text.occurs ['\x7b', '\x7b'] path.toList = false :=
    Text.occurs_of_not_mem (Path.not_mem_of_isShaped shaped (by decide))
  have undefinedWord : path.toList ≠ Literal.undefinedWord := unlike "undefined" (by decide)
  rw [parse]
  simp only [Path.trim_of_isShaped shaped, if_neg undefinedWord, literal]
  split
  · rename_i found
    rw [Path.trim_of_isShaped shaped, call] at found
    cases found
  · rw [bare, if_neg Bool.false_ne_true, if_pos shaped, String.ofList_toList]

/-- Braces around a text without closing braces make it the only placeholder. -/
theorem parse_inBraces {inside : List Char} (closed : '\x7d' ∉ inside) :
    parse (Pieces.inBraces inside) = .braced [([], parse inside)] [] := by
  have last : (Pieces.inBraces inside).getLast? = some '\x7d' := by
    simp [Pieces.inBraces, List.getLast?_cons]
  have trimmed : Text.trim (Pieces.inBraces inside) = Pieces.inBraces inside :=
    Text.trim_of_ends rfl last (by decide) (by decide)
  have literal : Literal.ofTrimmed? (Pieces.inBraces inside) = none :=
    Literal.ofTrimmed?_of_head (by decide) (by decide) (by decide) (by decide) (by decide)
  have call : Call.ofTrimmed? (Pieces.inBraces inside) = none := by
    have unnamed : Call.isNamePart '\x7b' = false := by decide
    rw [Call.ofTrimmed?, Pieces.inBraces, List.takeWhile_cons, unnamed]
    rfl
  have marked : Text.occurs ['\x7b', '\x7b'] (Pieces.inBraces inside) = true := rfl
  have undefinedWord : Pieces.inBraces inside ≠ Literal.undefinedWord := by
    intro same
    cases same
  rw [parse]
  simp only [trimmed, if_neg undefinedWord, literal]
  split
  · rename_i found
    rw [trimmed, call] at found
    cases found
  · rw [if_pos marked]
    refine (congrArg (braced · _) (List.attach_map_val (f := fun hole : Placeholder =>
      (hole.before, parse hole.inside)))).trans ?_
    rw [trimmed, Pieces.ofText_inBraces closed]
    rfl

variable {context : Context} {path text : String} (shaped : Path.isShaped path.toList = true)
  (rooted : Path.IsRooted path)

include shaped rooted

theorem resolve_path (outside : Outside) :
    resolve context outside path = Path.resolve context path := by
  rw [resolve, parse_path shaped rooted, evaluate]

/-- A placeholder for a path comes to what the text of the value at its end is as a literal. -/
theorem resolve_braced (context : Context) (outside : Outside) :
    resolve context outside ("\x7b\x7b" ++ path ++ "\x7d\x7d") =
      some (literalValue (.string (Resolved.toText (Path.resolve context path)))) := by
  have letters : ("\x7b\x7b" ++ path ++ "\x7d\x7d").toList = Pieces.inBraces path.toList := by
    rw [String.toList_append, String.toList_append]
    rfl
  have closed : '\x7d' ∉ path.toList := Path.not_mem_of_isShaped shaped (by decide)
  have rendered : renderHoles context outside.others [([], .path path)] [] =
      (Resolved.toText (Path.resolve context path)).toList := by
    rw [renderHoles, renderHoles, evaluate, List.append_nil, List.nil_append]
  rw [resolve, letters, parse_inBraces closed, parse_path shaped rooted, evaluate, rendered,
    String.ofList_toList]
  rfl

/-- The same, of a text at the end of the path. -/
theorem resolve_braced_path (held : Path.resolve context path = some (.string text))
    (outside : Outside) :
    resolve context outside ("\x7b\x7b" ++ path ++ "\x7d\x7d") =
      some (literalValue (.string text)) := by
  rw [resolve_braced shaped rooted, held]
  rfl

end Expression

end ChatFlow
