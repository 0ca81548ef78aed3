import Mathlib.Data.List.Basic
import Mathlib.Data.List.Infix
import Mathlib.Logic.Function.Basic
import Stencil.Proofs.Template.Tagged
import Stencil.Template.Filter

/-!
# Escaping as an encoding

The `escape` filter replaces one kind of character after the other in the whole
text.  Each replacement works character by character, so all of them together do,
and what they make of one character is its entity.  Since the ampersand is replaced
before there are any entities, the ampersands of an escaped text are the beginnings
of its entities, and one scan from left to right undoes the filter.
-/

namespace Stencil.Filter

/-- What the filter writes for a character: its entity if it has one. -/
def escapeChar (char : Char) : Text :=
  (entities.lookup char).getD [char]

def reserved : List Char :=
  entities.map Prod.fst

/-- An entity; it says the character that it stands for. -/
def entity : Matcher Char where
  read text := entities.findSome? fun (char, word) =>
    (Text.after? word text).map fun rest => (word, char, rest)
  sound := by
    intro text raw token rest read
    obtain ⟨⟨char, word⟩, member, found⟩ := List.exists_of_findSome?_eq_some read
    have nonempty : ∀ entry ∈ entities, entry.2 ≠ [] := by decide
    simp only [Option.map_eq_some_iff, Prod.mk.injEq] at found
    obtain ⟨tail, after, rfl, rfl, rfl⟩ := found
    exact ⟨nonempty _ member, Text.after?_eq_some_iff.mp after⟩

/-- The character that a piece of an escaped text stands for. -/
def pieceChar : Piece Char → Char
  | .plain char => char
  | .token _ char => char

/-- The text with every entity replaced by the character that it stands for, in one
scan from left to right. -/
def unescapeText (text : Text) : Text :=
  (entity.pieces text).map pieceChar

/-- Replacing several characters one after the other is replacing each character by
what becomes of it alone. -/
theorem foldl_substitute_eq_flatMap (table : List (Char × Text)) (text : Text) :
    table.foldl (fun text (char, word) => substitute char word text) text =
      text.flatMap fun char =>
        table.foldl (fun text (char, word) => substitute char word text) [char] := by
  induction table generalizing text with
  | nil => exact (List.flatMap_singleton' text).symm
  | cons entry table ih =>
      have first : substitute entry.1 entry.2 text =
          text.flatMap fun char => substitute entry.1 entry.2 [char] := by
        simp [substitute]
      simp only [List.foldl_cons]
      rw [ih, first, List.flatMap_assoc]
      congr 1
      funext char
      exact (ih _).symm

theorem escapeChar_of_not_mem {char : Char} (plain : char ∉ reserved) :
    escapeChar char = [char] := by
  have none : entities.lookup char = none := by
    rw [List.lookup_eq_none_iff]
    intro entry member
    rw [bne_iff_ne]
    rintro rfl
    exact plain (List.mem_map_of_mem member)
  rw [escapeChar, none, Option.getD_none]

/-- An entity is an ampersand and more behind it, but no other character that has
an entity. -/
theorem exists_escapeChar_eq {char : Char} (member : char ∈ reserved) :
    ∃ next word, escapeChar char = '&' :: next :: word ∧ ∀ other ∈ next :: word, other ∉ reserved := by
  have all : ∀ char ∈ reserved, (escapeChar char).head? = some '&' ∧
      (escapeChar char).tail ≠ [] ∧ (escapeChar char).tail.all (· ∉ reserved) = true :=
    Text.forall_of_all (by decide)
  obtain ⟨first, more, clean⟩ := all char member
  match whole : escapeChar char with
  | [] => rw [whole] at first; exact absurd first (by simp)
  | [only] => rw [whole] at more; exact absurd rfl more
  | start :: next :: word =>
      rw [whole] at first clean
      cases first
      exact ⟨next, word, rfl, Text.forall_of_all clean⟩

theorem foldl_substitute_of_not_mem {char : Char} {table : List (Char × Text)}
    (absent : char ∉ table.map Prod.fst) :
    table.foldl (fun text (char, word) => substitute char word text) [char] = [char] := by
  induction table with
  | nil => rfl
  | cons entry table ih =>
      rw [List.map_cons, List.mem_cons, not_or] at absent
      have passed : substitute entry.1 entry.2 [char] = [char] := by
        simp [substitute, absent.1]
      rw [List.foldl_cons]
      simp only [passed]
      exact ih absent.2

theorem escapeText_eq_flatMap (text : Text) : escapeText text = text.flatMap escapeChar := by
  rw [escapeText, foldl_substitute_eq_flatMap]
  congr 1
  funext char
  by_cases member : char ∈ reserved
  · have all : ∀ char ∈ reserved,
        entities.foldl (fun text (char, word) => substitute char word text) [char] =
          escapeChar char := Text.forall_of_all (by decide)
    exact all char member
  · rw [escapeChar_of_not_mem member]
    exact foldl_substitute_of_not_mem member

theorem mem_escapeText {text : Text} {char : Char} (member : char ∈ escapeText text) :
    char = '&' ∨ char ∉ reserved := by
  rw [escapeText_eq_flatMap] at member
  obtain ⟨source, _, inside⟩ := List.mem_flatMap.mp member
  by_cases known : source ∈ reserved
  · obtain ⟨next, word, whole, clean⟩ := exists_escapeChar_eq known
    rw [whole] at inside
    exact (List.mem_cons.mp inside).imp_right (clean char)
  · rw [escapeChar_of_not_mem known, List.mem_singleton] at inside
    exact .inr (inside ▸ known)

theorem suffix_of_suffix_append {char : Char} {front rest tail : Text} (absent : char ∉ front)
    (suffix : char :: tail <:+ front ++ rest) : char :: tail <:+ rest := by
  induction front with
  | nil => exact suffix
  | cons first front ih =>
      rw [List.mem_cons, not_or] at absent
      rcases List.suffix_cons_iff.mp suffix with same | later
      · exact absurd (List.cons.inj same).1 absent.1
      · exact ih absent.2 later

/-- Every ampersand of an escaped text begins an entity. -/
theorem entity_prefix_of_suffix (text : Text) {tail : Text}
    (suffix : '&' :: tail <:+ escapeText text) :
    ∃ word ∈ entities.map Prod.snd, word <+: '&' :: tail := by
  rw [escapeText_eq_flatMap] at suffix
  induction text with
  | nil => exact absurd (List.suffix_nil.mp suffix) (by simp)
  | cons char text ih =>
      rw [List.flatMap_cons] at suffix
      by_cases member : char ∈ reserved
      · obtain ⟨next, word, whole, clean⟩ := exists_escapeChar_eq member
        have known : ∀ char ∈ reserved, escapeChar char ∈ entities.map Prod.snd :=
          Text.forall_of_all (by decide)
        rw [whole, List.cons_append] at suffix
        rcases List.suffix_cons_iff.mp suffix with here | later
        · refine ⟨_, known char member, ?_⟩
          rw [whole, here]
          exact List.prefix_append ('&' :: next :: word) _
        · have noAmpersand : '&' ∉ next :: word := fun inside => clean '&' inside (by decide)
          exact ih (suffix_of_suffix_append noAmpersand later)
      · rw [escapeChar_of_not_mem member, List.singleton_append] at suffix
        rcases List.suffix_cons_iff.mp suffix with same | later
        · rw [← (List.cons.inj same).1] at member
          exact absurd (by decide) member
        · exact ih later

theorem entity_read_of_ne {char : Char} (different : char ≠ '&') (rest : Text) :
    entity.read (char :: rest) = none := by
  apply List.findSome?_eq_none_iff.mpr
  intro entry member
  have starts : ∀ entry ∈ entities, entry.2.head? = some '&' := by decide
  obtain ⟨found, word⟩ := entry
  rw [Option.map_eq_none_iff]
  cases word with
  | nil => exact absurd (starts _ member) (by simp)
  | cons first word =>
      cases starts _ member
      exact if_neg different.symm

theorem pieces_escapeChar_append (char : Char) (rest : Text) :
    (entity.pieces (escapeChar char ++ rest)).map pieceChar =
      char :: (entity.pieces rest).map pieceChar := by
  by_cases member : char ∈ reserved
  · have read : entity.read (escapeChar char ++ rest) = some (escapeChar char, char, rest) := by
      simp only [reserved, entities, List.map_cons, List.map_nil, List.mem_cons,
        List.not_mem_nil, or_false] at member
      rcases member with rfl | rfl | rfl | rfl | rfl <;> rfl
    rw [Matcher.pieces_of_read_some read]
    rfl
  · have different : char ≠ '&' := by
      rintro rfl
      exact member (by decide)
    rw [escapeChar_of_not_mem member, List.singleton_append,
      Matcher.pieces_of_read_none (entity_read_of_ne different rest)]
    rfl

theorem unescapeText_escapeText (text : Text) : unescapeText (escapeText text) = text := by
  rw [unescapeText, escapeText_eq_flatMap]
  induction text with
  | nil => rw [List.flatMap_nil, Matcher.pieces, List.map_nil]
  | cons char text ih => rw [List.flatMap_cons, pieces_escapeChar_append, ih]

theorem length_le_length_escapeText (text : Text) : text.length ≤ (escapeText text).length := by
  rw [escapeText_eq_flatMap]
  induction text with
  | nil => exact Nat.le_refl 0
  | cons char text ih =>
      have one : 1 ≤ (escapeChar char).length := by
        by_cases member : char ∈ reserved
        · obtain ⟨next, word, whole, _⟩ := exists_escapeChar_eq member
          rw [whole]
          simp
        · rw [escapeChar_of_not_mem member]
          simp
      rw [List.flatMap_cons, List.length_append, List.length_cons]
      omega

theorem escapeText_eq_self_iff (text : Text) :
    escapeText text = text ↔ ∀ char ∈ text, char ∉ reserved := by
  induction text with
  | nil => simp [escapeText_eq_flatMap]
  | cons char text ih =>
      rw [escapeText_eq_flatMap, List.flatMap_cons, ← escapeText_eq_flatMap]
      by_cases member : char ∈ reserved
      · obtain ⟨next, word, whole, _⟩ := exists_escapeChar_eq member
        constructor
        · intro same
          -- The entity is longer than the character, and the rest has not become shorter.
          have lengths := congrArg List.length same
          have longer := length_le_length_escapeText text
          rw [whole] at lengths
          simp only [List.length_append, List.length_cons] at lengths
          omega
        · intro plain
          exact absurd member (plain char List.mem_cons_self)
      · rw [escapeChar_of_not_mem member, List.singleton_append, List.forall_mem_cons, ← ih]
        simp [member]

/-- The `escape` filter writes each character of a text as its entity, all at once.
What it writes holds none of the characters that have an entity but the ampersands
that begin its entities; one scan gives the text back, so different texts become
different; and a second time changes nothing exactly if the first had nothing to
do. -/
theorem escape_encodes (text : Text) :
    escape [.text text] = .ok (.text (escapeText text)) ∧
      escapeText text = text.flatMap escapeChar ∧
      (∀ char ∈ escapeText text, char ∉ ['<', '>', '"', '\'']) ∧
      (∀ tail, '&' :: tail <:+ escapeText text →
        ∃ word ∈ entities.map Prod.snd, word <+: '&' :: tail) ∧
      unescapeText (escapeText text) = text ∧
      (∀ other, escapeText other = escapeText text → other = text) ∧
      (escapeText (escapeText text) = escapeText text ↔
        ∀ char ∈ text, char ∉ ['&', '<', '>', '"', '\'']) := by
  have injective : Function.Injective escapeText :=
    Function.LeftInverse.injective unescapeText_escapeText
  refine ⟨rfl, escapeText_eq_flatMap text, ?_, fun tail => entity_prefix_of_suffix text,
    unescapeText_escapeText text, fun other same => injective same, ?_⟩
  · intro char member forbidden
    rcases mem_escapeText member with rfl | plain
    · exact absurd forbidden (by decide)
    · exact plain (List.mem_cons_of_mem _ forbidden)
  · rw [injective.eq_iff]
    exact escapeText_eq_self_iff text

/-- A text that reads like an escaped one is escaped like any other. -/
theorem escape_ampersands :
    let text := "a &lt; b".toList
    escape [.text text] = .ok (.text "a &amp;lt; b".toList) ∧
      (∃ word ∈ entities.map Prod.snd, word <+: "&amp;lt; b".toList) ∧
      unescapeText "a &amp;lt; b".toList = text ∧
      escapeText (escapeText text) ≠ escapeText text := by
  intro text
  have once : escapeText text = "a &amp;lt; b".toList := by decide
  obtain ⟨written, _, _, begins, back, _, again⟩ := escape_encodes text
  rw [once] at written begins back
  refine ⟨written, begins _ ⟨"a ".toList, rfl⟩, back, fun same => ?_⟩
  exact again.mp same '&' (by decide) (by decide)

end Stencil.Filter
