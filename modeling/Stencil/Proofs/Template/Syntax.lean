import Mathlib.Data.List.Infix
import Stencil.Proofs.Template.Cuts
import Stencil.Proofs.Template.Tagged
import Stencil.Template.Loop

/-!
# Syntax trees of templates

A tree says what a template is made of: literal texts, tags with a path,
blocks with a condition, and loops.  Its printed form is the text that the
engine works on.  The names of a tree, the conditions and the loop headers
carry the proof that they are written as such.
-/

namespace Stencil

/-- A name that stands in a loop header, or a key of the data. -/
structure Word where
  text : Text
  wellFormed : text ≠ [] ∧ text.all Text.isWord = true ∧ text ∉ Interpolation.blockWords

/-- A path of a tag: words with dots between them. -/
structure TagPath where
  text : Text
  wellFormed : text ≠ [] ∧ text.all Text.isPathChar = true ∧ text ∉ Interpolation.blockWords

/-- What a condition may be written as. -/
structure IfHeader where
  text : Text
  free : Text.isBraceFree text = true
  solid : text.any (!Text.isBlank ·) = true

/-- What a loop goes through, and the names for key and value, if it has
names of its own. -/
structure LoopHeader where
  target : TagPath
  names : Option (Word × Word)

namespace IfHeader

/-- The inside of the opening tag of an `if` block. -/
def interior (header : IfHeader) : Text :=
  'i' :: 'f' :: ' ' :: header.text

/-- The condition that a header stands for. -/
def condition (header : IfHeader) : Condition :=
  Condition.ofText header.text

end IfHeader

namespace LoopHeader

def text (header : LoopHeader) : Text :=
  match header.names with
  | none => header.target.text
  | some (key, value) =>
      header.target.text ++ " as ".toList ++ key.text ++ " => ".toList ++ value.text

/-- The inside of the opening tag of a `foreach` block. -/
def interior (header : LoopHeader) : Text :=
  Tag.foreachWord ++ header.text

def spec (header : LoopHeader) : Loop.Spec :=
  match header.names with
  | none => ⟨header.target.text, "index".toList, "item".toList⟩
  | some (key, value) => ⟨header.target.text, key.text, value.text⟩

end LoopHeader

/-- What a template is made of, from left to right. -/
inductive Template where
  | done
  | text (content : Text.Inert) (next : Template)
  | tag (path : TagPath) (next : Template)
  /-- A block without a separator. -/
  | guarded (header : IfHeader) (body next : Template)
  /-- A block that a separator divides. -/
  | either (header : IfHeader) (body alternative next : Template)
  | loop (header : LoopHeader) (body next : Template)

namespace Template

def print : Template → Text
  | done => []
  | text content next => content.text ++ next.print
  | tag path next => Tag.tagged path.text ++ next.print
  | guarded header body next =>
      Tag.tagged header.interior ++ body.print ++ Tag.tagged Tag.endifWord ++ next.print
  | either header body alternative next =>
      Tag.tagged header.interior ++ body.print ++ Tag.tagged Tag.elseWord ++ alternative.print
        ++ Tag.tagged Tag.endifWord ++ next.print
  | loop header body next =>
      Tag.tagged header.interior ++ body.print ++ Tag.tagged Tag.endforeachWord ++ next.print

def append : Template → Template → Template
  | done, later => later
  | text content next, later => text content (next.append later)
  | tag path next, later => tag path (next.append later)
  | guarded header body next, later => guarded header body (next.append later)
  | either header body alternative next, later =>
      either header body alternative (next.append later)
  | loop header body next, later => loop header body (next.append later)

instance : Append Template := ⟨append⟩

@[simp] theorem done_append (later : Template) : done ++ later = later := rfl

@[simp] theorem text_append (content : Text.Inert) (next later : Template) :
    text content next ++ later = text content (next ++ later) := rfl

@[simp] theorem tag_append (path : TagPath) (next later : Template) :
    tag path next ++ later = tag path (next ++ later) := rfl

@[simp] theorem guarded_append (header : IfHeader) (body next later : Template) :
    guarded header body next ++ later = guarded header body (next ++ later) := rfl

@[simp] theorem either_append (header : IfHeader) (body alternative next later : Template) :
    either header body alternative next ++ later =
      either header body alternative (next ++ later) := rfl

@[simp] theorem loop_append (header : LoopHeader) (body next later : Template) :
    loop header body next ++ later = loop header body (next ++ later) := rfl

@[simp] theorem print_append (first later : Template) :
    (first ++ later).print = first.print ++ later.print := by
  induction first with
  | done => rfl
  | text content next ih => simp [print, ih]
  | tag path next ih => simp [print, ih]
  | guarded header body next _ ih => simp [print, ih]
  | either header body alternative next _ _ ih => simp [print, ih]
  | loop header body next _ ih => simp [print, ih]

end Template

namespace TagPath

variable (path : TagPath)

theorem isBraceFree : Text.isBraceFree path.text = true :=
  Text.isBraceFree_of_isPathChar path.wellFormed.2.1

theorem isPathChar_of_mem {char : Char} (member : char ∈ path.text) :
    Text.isPathChar char = true :=
  List.all_eq_true.mp path.wellFormed.2.1 char member

theorem not_mem_of_separator {char : Char} (separator : char ∈ Text.separators) :
    char ∉ path.text := by
  intro member
  exact Text.not_mem_separators_of_isPathChar (path.isPathChar_of_mem member) separator

theorem ne_word {word : Text} (reserved : word ∈ Interpolation.blockWords) : path.text ≠ word := by
  rintro rfl
  exact path.wellFormed.2.2 reserved

theorem ifMark?_eq_none : Tag.ifMark? path.text = none := by
  have notEnd : path.text ≠ Tag.endifWord := path.ne_word (by decide)
  have notElse : path.text ≠ Tag.elseWord := path.ne_word (by decide)
  rw [Tag.ifMark?, if_neg notEnd, if_neg notElse]
  split
  · next char rest after =>
      have member : char ∈ path.text := by
        rw [Text.after?_eq_some_iff.mp after]
        simp
      have solid := Text.isBlank_of_isPathChar (path.isPathChar_of_mem member)
      simp [solid]
  · rfl

theorem after?_eq_none {word : Text} (char : Char) (member : char ∈ word)
    (separator : char ∈ Text.separators) : Text.after? word path.text = none := by
  cases after : Text.after? word path.text with
  | none => rfl
  | some rest =>
      rw [Text.after?_eq_some_iff] at after
      have inside : char ∈ path.text := by
        rw [after]
        exact List.mem_append_left rest member
      exact absurd inside (path.not_mem_of_separator separator)

theorem foreachMark?_eq_none : Tag.foreachMark? path.text = none := by
  have notEnd : path.text ≠ Tag.endforeachWord := path.ne_word (by decide)
  have after : Text.after? Tag.foreachWord path.text = none :=
    path.after?_eq_none ':' (by decide) (by decide)
  rw [Tag.foreachMark?, if_neg notEnd, after]
  rfl

theorem expression_eq : Tag.expression path.text = path.text := by
  rw [Tag.expression, Text.trim_path path.wellFormed.2.1, if_neg path.wellFormed.1]

theorem isReserved_eq_false : Interpolation.isReserved path.text = false := by
  have noWord : Interpolation.blockWords.contains path.text = false := by
    simpa using path.wellFormed.2.2
  have noHead : (Interpolation.blockHeads.any fun head => Text.startsWith path.text head) =
      false := by
    rw [List.any_eq_false]
    intro head member
    have colon : ':' ∈ head := by
      simp only [Interpolation.blockHeads, List.mem_cons, List.not_mem_nil, or_false] at member
      rcases member with rfl | rfl
      · decide
      · decide
    rw [Text.startsWith, path.after?_eq_none ':' colon (by decide)]
    decide
  rw [Interpolation.isReserved, noWord, noHead]
  simp only [Bool.false_or]
  split
  · next char rest after =>
      apply Text.isBlank_of_isPathChar
      apply path.isPathChar_of_mem
      rw [Text.after?_eq_some_iff.mp after]
      simp
  · rfl

theorem split_eq : Interpolation.split path.text = (path.text, []) := by
  have trimmed := Text.trim_path path.wellFormed.2.1
  have closed : Arguments.Closed '|' path.text :=
    Arguments.closed_path path.wellFormed.2.1 (by decide)
  have alone := Arguments.split_eq_singleton closed (by rw [trimmed]; exact path.wellFormed.1)
  rw [Interpolation.split, alone, trimmed]

theorem call?_eq_none : Helper.Call.ofText? path.text = none := by
  have noCall : ∀ rest, Helper.Call.withoutLineEnd (path.text.dropWhile Text.isNameChar) ≠
      '(' :: rest := by
    intro rest same
    have member : '(' ∈ path.text := by
      apply (List.dropWhile_sublist Text.isNameChar).subset
      unfold Helper.Call.withoutLineEnd at same
      split at same
      · apply List.mem_of_mem_dropLast
        rw [same]
        exact List.mem_cons_self
      · rw [same]
        exact List.mem_cons_self
    exact path.not_mem_of_separator (by decide) member
  unfold Helper.Call.ofText?
  dsimp only
  split
  · rfl
  · split
    · next rest same => exact absurd same (noCall rest)
    · rfl

end TagPath

namespace IfHeader

variable (header : IfHeader)

theorem interior_isBraceFree : Text.isBraceFree header.interior = true := by
  simp only [interior, Text.isBraceFree_cons, header.free]
  decide

theorem ifMark?_interior :
    Tag.ifMark? header.interior = some (.opens (Text.trimLeft header.text)) := by
  have notEnd : header.interior ≠ Tag.endifWord := by simp [interior, Tag.endifWord]
  have notElse : header.interior ≠ Tag.elseWord := by simp [interior, Tag.elseWord]
  have after : Text.after? Tag.ifWord header.interior = some (' ' :: header.text) :=
    Text.after?_eq_some_iff.mpr rfl
  have blank : Text.isBlank ' ' = true := by decide
  rw [Tag.ifMark?, if_neg notEnd, if_neg notElse, after]
  simp [blank]

theorem foreachMark?_interior : Tag.foreachMark? header.interior = none := by
  have notEnd : header.interior ≠ Tag.endforeachWord := by simp [interior, Tag.endforeachWord]
  rw [Tag.foreachMark?, if_neg notEnd]
  simp [interior, Tag.foreachWord, Text.after?]

theorem condition_trimLeft : Condition.ofText (Text.trimLeft header.text) = header.condition := by
  simp only [condition, Condition.ofText, Text.trim_trimLeft]

theorem trim_interior :
    Text.trim header.interior = ['i', 'f', ' '] ++ Text.trimRight header.text := by
  have left : Text.trimLeft header.interior = ['i', 'f', ' '] ++ header.text :=
    Text.dropWhile_eq_self (by intro char first; cases first; decide)
  rw [Text.trim, left, Text.trimRight_append header.solid]

theorem isReserved_interior : Interpolation.isReserved (Tag.expression header.interior) = true := by
  have blank : Text.isBlank ' ' = true := by decide
  simp [Tag.expression, header.trim_interior, Interpolation.isReserved, Text.after?, blank]

end IfHeader

namespace LoopHeader

variable (header : LoopHeader)

theorem text_isBraceFree : Text.isBraceFree header.text = true := by
  have target := header.target.isBraceFree
  have word : ∀ name : Word, Text.isBraceFree name.text = true := by
    intro name
    exact Text.isBraceFree_of_isPathChar (Text.all_isPathChar_of_isWord name.wellFormed.2.1)
  have keySign : Text.isBraceFree " as ".toList = true := by decide
  have valueSign : Text.isBraceFree " => ".toList = true := by decide
  unfold text
  split
  · exact target
  · simp only [Text.isBraceFree_append, target, word, keySign, valueSign, Bool.and_self]

theorem interior_isBraceFree : Text.isBraceFree header.interior = true := by
  rw [interior, Text.isBraceFree_append, header.text_isBraceFree]
  decide

theorem foreachMark?_interior :
    Tag.foreachMark? header.interior = some (.opens header.text) := by
  have notEnd : header.interior ≠ Tag.endforeachWord := by
    simp [interior, Tag.foreachWord, Tag.endforeachWord]
  have after : Text.after? Tag.foreachWord header.interior = some header.text :=
    Text.after?_eq_some_iff.mpr rfl
  rw [Tag.foreachMark?, if_neg notEnd, after]
  rfl

theorem ifMark?_interior : Tag.ifMark? header.interior = none := by
  simp [Tag.ifMark?, interior, Tag.foreachWord, Tag.endifWord, Tag.elseWord, Tag.ifWord,
    Text.after?]

theorem getLast?_text : ∀ char ∈ header.text.getLast?, Text.isBlank char = false := by
  intro char last
  unfold text at last
  split at last
  · exact Text.getLast?_isBlank_of_isPathChar header.target.wellFormed.2.1 char last
  · next value _ =>
      rw [List.getLast?_append_of_ne_nil _ value.wellFormed.1] at last
      exact Text.getLast?_isBlank_of_isPathChar
        (Text.all_isPathChar_of_isWord value.wellFormed.2.1) char last

theorem head?_text : ∀ char ∈ header.text.head?, Text.isBlank char = false := by
  intro char first
  have same : header.text.head? = header.target.text.head? := by
    obtain ⟨target, names⟩ := header
    obtain ⟨path, wellFormed⟩ := target
    cases path with
    | nil => exact absurd rfl wellFormed.1
    | cons char path =>
        unfold text
        cases names <;> rfl
  rw [same] at first
  exact Text.head?_isBlank_of_isPathChar header.target.wellFormed.2.1 char first

theorem trim_text : Text.trim header.text = header.text :=
  Text.trim_eq_self header.head?_text header.getLast?_text

theorem text_ne_nil : header.text ≠ [] := by
  intro empty
  unfold text at empty
  split at empty
  · exact header.target.wellFormed.1 empty
  · exact absurd empty (by simp)

theorem isReserved_interior : Interpolation.isReserved (Tag.expression header.interior) = true := by
  have first : ∀ char ∈ header.interior.head?, Text.isBlank char = false := by
    intro char first
    cases first
    decide
  have last : ∀ char ∈ header.interior.getLast?, Text.isBlank char = false := by
    intro char last
    rw [interior, List.getLast?_append_of_ne_nil _ header.text_ne_nil] at last
    exact header.getLast?_text char last
  have nonempty : header.interior ≠ [] := by simp [interior, Tag.foreachWord]
  have after : Text.after? "foreach:".toList header.interior = some header.text :=
    Text.after?_eq_some_iff.mpr rfl
  have headed : (Interpolation.blockHeads.any
      fun head => Text.startsWith header.interior head) = true := by
    apply List.any_eq_true.mpr
    refine ⟨"foreach:".toList, by simp [Interpolation.blockHeads], ?_⟩
    rw [Text.startsWith, after]
    rfl
  rw [Tag.expression, Text.trim_eq_self first last, if_neg nonempty, Interpolation.isReserved,
    headed, Bool.or_true, Bool.true_or]

end LoopHeader

namespace Loop.Spec

theorem word?_append {allowed : Char → Bool} {word : Text} (nonempty : word ≠ [])
    (all : word.all allowed = true) (rest : Text)
    (stops : ∀ char ∈ rest.head?, allowed char = false) :
    word? allowed (word ++ rest) = some (word, rest) := by
  rw [word?, Text.takeWhile_append_of_stop all stops, Text.dropWhile_append_of_stop all stops,
    if_neg nonempty]

theorem trimLeft_space (rest : Text) (solid : ∀ char ∈ rest.head?, Text.isBlank char = false) :
    Text.trimLeft (' ' :: rest) = rest := by
  have blank : Text.isBlank ' ' = true := by decide
  rw [Text.trimLeft, List.dropWhile_cons_of_pos blank]
  exact Text.dropWhile_eq_self solid

theorem blanks?_space (rest : Text) (solid : ∀ char ∈ rest.head?, Text.isBlank char = false) :
    blanks? (' ' :: rest) = some rest := by
  have blank : Text.isBlank ' ' = true := by decide
  rw [blanks?, if_pos blank, Text.trimLeft, Text.dropWhile_eq_self solid]

theorem named?_words (target : TagPath) (key value : Word) :
    named? (target.text ++ " as ".toList ++ key.text ++ " => ".toList ++ value.text) =
      some ⟨target.text, key.text, value.text⟩ := by
  have stop : Text.isWord ' ' = false := by decide +kernel
  have wordFirst : ∀ (name : Word) (rest : Text),
      ∀ char ∈ (name.text ++ rest).head?, Text.isBlank char = false := by
    intro name rest char first
    rw [List.head?_append_of_ne_nil _ name.wellFormed.1] at first
    exact Text.head?_isBlank_of_isPathChar
      (Text.all_isPathChar_of_isWord name.wellFormed.2.1) char first
  have whole : target.text ++ " as ".toList ++ key.text ++ " => ".toList ++ value.text =
      target.text ++ ' ' :: 'a' :: 's' :: ' ' ::
        (key.text ++ ' ' :: '=' :: '>' :: ' ' :: value.text) := by
    simp
  have targetWord := word?_append target.wellFormed.1 target.wellFormed.2.1
    (' ' :: 'a' :: 's' :: ' ' :: (key.text ++ ' ' :: '=' :: '>' :: ' ' :: value.text))
    (by intro char first; cases first; simp [Text.isPathChar, stop])
  have keyWord := word?_append key.wellFormed.1 key.wellFormed.2.1
    (' ' :: '=' :: '>' :: ' ' :: value.text) (by intro char first; cases first; exact stop)
  have valueWord := word?_append value.wellFormed.1 value.wellFormed.2.1 [] (by simp)
  have valueFirst := wordFirst value []
  rw [List.append_nil] at valueWord valueFirst
  have afterTarget := blanks?_space
    ('a' :: 's' :: ' ' :: (key.text ++ ' ' :: '=' :: '>' :: ' ' :: value.text))
    (by intro char first; cases first; decide)
  have afterAs := blanks?_space _ (wordFirst key (' ' :: '=' :: '>' :: ' ' :: value.text))
  have afterKey := trimLeft_space ('=' :: '>' :: ' ' :: value.text)
    (by intro char first; cases first; decide)
  have afterArrow := trimLeft_space _ valueFirst
  rw [whole, named?]
  show (word? Text.isPathChar _).bind _ = _
  rw [targetWord]
  simp only [Option.bind_eq_bind, Option.bind_some, afterTarget, Text.after?, if_true, afterAs,
    keyWord, afterKey, afterArrow, valueWord]

end Loop.Spec

namespace LoopHeader

theorem spec_ofText (header : LoopHeader) : Loop.Spec.ofText header.text = header.spec := by
  have trimmed := header.trim_text
  obtain ⟨target, names⟩ := header
  cases names with
  | none =>
      have word := Loop.Spec.word?_append target.wellFormed.1 target.wellFormed.2.1 []
        (by simp)
      rw [List.append_nil] at word
      have bare : Loop.Spec.named? target.text = none := by
        rw [Loop.Spec.named?]
        show (Loop.Spec.word? Text.isPathChar target.text).bind _ = _
        rw [word]
        rfl
      simp only [text] at trimmed ⊢
      simp only [Loop.Spec.ofText, trimmed, bare, spec, Option.getD_none]
  | some names =>
      obtain ⟨key, value⟩ := names
      simp only [text] at trimmed ⊢
      simp only [Loop.Spec.ofText, trimmed, Loop.Spec.named?_words, spec, Option.getD_some]

end LoopHeader

end Stencil
