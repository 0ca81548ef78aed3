import Stencil.Proofs.Data.Shown
import Stencil.Proofs.Template.Passes
import Stencil.Proofs.Text.Split

/-!
# Bound names

Before the first pass of an iteration the placeholders of the bound names are
filled in, one name after the other.  On tags and inert texts this fills in
all names at once, and it fills in nothing that the pass over expressions
would have filled in differently.
-/

namespace Stencil

/-- Names with the texts that are filled in for them. -/
abbrev Bindings := List (TagPath × Text.Inert)

namespace Bindings

/-- The texts of the names and of what is filled in for them. -/
def raw (bindings : Bindings) : List (Text × Text) :=
  bindings.map fun (name, content) => (name.text, content.text)

/-- What is filled in for a name: what it was bound to first. -/
def bound? (name : Text) : Bindings → Option Text.Inert
  | [] => none
  | (found, content) :: later => if found.text = name then some content else bound? name later

@[simp] theorem raw_append (first later : Bindings) :
    raw (first ++ later) = raw first ++ raw later :=
  List.map_append

theorem bound?_append (name : Text) (first later : Bindings) :
    bound? name (first ++ later) = (bound? name first).or (bound? name later) := by
  induction first with
  | nil => rfl
  | cons binding first ih =>
      obtain ⟨found, content⟩ := binding
      by_cases same : found.text = name
      · simp [bound?, same]
      · simp [bound?, same, ih]

end Bindings

namespace Text

/-- Only a text with blank characters around a path is that path when it is
trimmed. -/
theorem trim_eq_path {before path after : Text} (solid : path.all isPathChar = true)
    (nonempty : path ≠ []) (blankBefore : ∀ char ∈ before, isBlank char = true)
    (blankAfter : ∀ char ∈ after, isBlank char = true) : trim (before ++ path ++ after) = path :=
  trim_between nonempty (head?_isBlank_of_isPathChar solid)
    (getLast?_isBlank_of_isPathChar solid) blankBefore blankAfter

end Text

namespace Tag

/-- A placeholder is not found at a tag whose inside is another text, blank
characters around it aside. -/
theorem not_pads (name : TagPath) {interior : Text} (other : Text.trim interior ≠ name.text) :
    ¬ Pads name.text interior := by
  rintro ⟨before, after, rfl, blankBefore, blankAfter⟩
  exact other (Text.trim_eq_path name.wellFormed.2.1 name.wellFormed.1 blankBefore blankAfter)

theorem replaceAll_plain_append {matcher : Matcher α} {text rest : Text}
    (plain : matcher.pieces (text ++ rest) = text.map .plain ++ matcher.pieces rest)
    (content : Text) :
    matcher.replaceAll content (text ++ rest) = text ++ matcher.replaceAll content rest := by
  rw [Matcher.replaceAll, plain, List.flatMap_append, Matcher.replaceAll, List.flatMap_map]
  simp

theorem replaceAll_inert_append (name : Text) {text : Text} (inert : Text.isInert text = true)
    (content rest : Text) :
    (placeholder name).replaceAll content (text ++ rest) =
      text ++ (placeholder name).replaceAll content rest :=
  replaceAll_plain_append
    (Matcher.pieces_inert_append (startsOpen_placeholder name) inert rest) content

theorem replaceAll_apart_append {name interior : Text} (nameFree : Text.isBraceFree name = true)
    (free : Text.isBraceFree interior = true) (apart : ¬ Pads name interior)
    (content rest : Text) :
    (placeholder name).replaceAll content (tagged interior ++ rest) =
      tagged interior ++ (placeholder name).replaceAll content rest :=
  replaceAll_plain_append
    (pieces_tagged_of_read_none (startsOpen_placeholder name) free
      (read_placeholder_of_not_pads nameFree free apart rest)) content

theorem replaceAll_pads_append {name interior : Text} (nameFree : Text.isBraceFree name = true)
    (free : Text.isBraceFree interior = true) (pads : Pads name interior) (content rest : Text) :
    (placeholder name).replaceAll content (tagged interior ++ rest) =
      content ++ (placeholder name).replaceAll content rest := by
  have read := read_placeholder_of_pads nameFree free pads rest
  rw [Matcher.replaceAll, Matcher.pieces_of_read_some read, List.flatMap_cons]
  rfl

theorem pads_self (name : Text) : Pads name name :=
  ⟨[], [], by simp, by simp, by simp⟩

end Tag

namespace Loop

open Tag Bindings

theorem bind_cons (name content : Text) (later : List (Text × Text)) (text : Text) :
    bind ((name, content) :: later) text =
      bind later ((placeholder name).replaceAll content text) := rfl

theorem bind_nil_text (bindings : List (Text × Text)) : bind bindings [] = [] := by
  induction bindings with
  | nil => rfl
  | cons binding bindings ih =>
      rw [bind_cons, Matcher.replaceAll, Matcher.pieces]
      exact ih

theorem bind_inert_append (bindings : List (Text × Text)) {text : Text}
    (inert : Text.isInert text = true) (rest : Text) :
    bind bindings (text ++ rest) = text ++ bind bindings rest := by
  induction bindings generalizing rest with
  | nil => rfl
  | cons binding bindings ih =>
      obtain ⟨name, content⟩ := binding
      rw [bind_cons, bind_cons, replaceAll_inert_append name inert, ih]

/-- Filling in names without braces by inert texts leaves a tag as it is, or puts
an inert text in its place. -/
theorem exists_bind_tagged {bindings : List (Text × Text)}
    (clear : ∀ binding ∈ bindings,
      Text.isBraceFree binding.1 = true ∧ Text.isInert binding.2 = true)
    {interior : Text} (free : Text.isBraceFree interior = true) :
    ∃ result, (result = tagged interior ∨ Text.isInert result = true) ∧
      ∀ rest, bind bindings (tagged interior ++ rest) = result ++ bind bindings rest := by
  induction bindings with
  | nil => exact ⟨tagged interior, .inl rfl, fun _ => rfl⟩
  | cons binding bindings ih =>
      obtain ⟨nameFree, inert⟩ := clear binding List.mem_cons_self
      by_cases pads : Pads binding.1 interior
      · refine ⟨binding.2, .inr inert, ?_⟩
        intro rest
        rw [bind_cons, bind_cons, replaceAll_pads_append nameFree free pads,
          bind_inert_append bindings inert]
      · obtain ⟨result, fine, bound⟩ :=
          ih fun other member => clear other (List.mem_cons_of_mem binding member)
        refine ⟨result, fine, ?_⟩
        intro rest
        rw [bind_cons, bind_cons, replaceAll_apart_append nameFree free pads, bound]

theorem bind_other_append (bindings : Bindings) {interior : Text}
    (free : Text.isBraceFree interior = true)
    (other : ∀ name : TagPath, Text.trim interior ≠ name.text) (rest : Text) :
    bind bindings.raw (tagged interior ++ rest) = tagged interior ++ bind bindings.raw rest := by
  induction bindings generalizing rest with
  | nil => rfl
  | cons binding bindings ih =>
      obtain ⟨name, content⟩ := binding
      show bind ((name.text, content.text) :: raw bindings) _ =
        tagged interior ++ bind ((name.text, content.text) :: raw bindings) rest
      rw [bind_cons, bind_cons, replaceAll_apart_append name.isBraceFree free
        (not_pads name (other name)), ih]

/-- What filling in bound names makes of the tag of a path. -/
def filled (bindings : Bindings) (path : TagPath) : Text :=
  match bound? path.text bindings with
  | some content => content.text
  | none => tagged path.text

/-- Filling in one name after the other gives each tag what its path was bound
to first. -/
theorem bind_path_append (bindings : Bindings) (path : TagPath) (rest : Text) :
    bind bindings.raw (tagged path.text ++ rest) =
      filled bindings path ++ bind bindings.raw rest := by
  induction bindings generalizing rest with
  | nil => rfl
  | cons binding bindings ih =>
      obtain ⟨name, content⟩ := binding
      show bind ((name.text, content.text) :: raw bindings) _ =
        _ ++ bind ((name.text, content.text) :: raw bindings) rest
      rw [bind_cons, bind_cons]
      by_cases same : name.text = path.text
      · rw [← same, replaceAll_pads_append name.isBraceFree name.isBraceFree (pads_self name.text),
          bind_inert_append (raw bindings) content.inert, filled, bound?, if_pos same]
      · have other : Text.trim path.text ≠ name.text := by
          rw [Text.trim_path path.wellFormed.2.1]
          exact Ne.symm same
        rw [replaceAll_apart_append name.isBraceFree path.isBraceFree (not_pads name other), ih,
          filled, filled, bound?, if_neg same]

end Loop

namespace Entries

/-- The text that a path is shown as in a context, if it stands for anything
there. -/
def shown? (context : Entries) (path : Text) : Option Text.Inert :=
  match resolve path context with
  | .undefined => none
  | value => some value.shown

theorem shown?_of_isPlain {context : Entries} {path : Text}
    (plain : (resolve path context).isPlain = true) :
    context.shown? path = some (resolve path context).shown := by
  unfold shown?
  split
  · next undefined =>
      rw [undefined] at plain
      simp [Value.isPlain] at plain
  · rfl

theorem resolve_of_dot_not_mem {path : Text} (noDot : '.' ∉ path) (context : Entries) :
    resolve path context = lookup path context :=
  if_neg noDot

theorem resolve_part {name key : Text} (noDot : '.' ∉ name) (noMore : '.' ∉ key)
    {context : Entries} {identity : Nat} {readOnly : Bool} {parts : Entries}
    (bound : lookup name context = .map identity readOnly parts) :
    resolve (name ++ '.' :: key) context = lookup key parts := by
  have dotted : '.' ∈ name ++ '.' :: key := by simp
  rw [resolve, if_pos dotted, Text.split_append noDot, Text.split_of_not_mem noMore, walk, bound]
  rfl

end Entries

theorem TagPath.wellFormed_part {name key : Text} (words : name.all Text.isWord = true)
    (keyWords : key.all Text.isWord = true) :
    name ++ '.' :: key ≠ [] ∧ (name ++ '.' :: key).all Text.isPathChar = true ∧
      name ++ '.' :: key ∉ Interpolation.blockWords := by
  have dot : Text.isPathChar '.' = true := by decide
  refine ⟨by simp, ?_, ?_⟩
  · simp [Text.all_isPathChar_of_isWord words, Text.all_isPathChar_of_isWord keyWords, dot]
  · intro reserved
    have noDot : ∀ blockWord ∈ Interpolation.blockWords, '.' ∉ blockWord := by decide
    exact noDot _ reserved (by simp)

namespace Word

def path (word : Word) : TagPath :=
  ⟨word.text, word.wellFormed.1, Text.all_isPathChar_of_isWord word.wellFormed.2.1,
    word.wellFormed.2.2⟩

/-- The path to a part of what a word stands for. -/
def part (word key : Word) : TagPath where
  text := word.text ++ '.' :: key.text
  wellFormed := TagPath.wellFormed_part word.wellFormed.2.1 key.wellFormed.2.1

end Word

namespace Loop

open Bindings

/-- Every bound name is filled in with what it is shown as in a context. -/
def Agree (bindings : Bindings) (context : Entries) : Prop :=
  ∀ (path : TagPath) (content : Text.Inert),
    bound? path.text bindings = some content → context.shown? path.text = some content

theorem agree_append {first later : Bindings} {context : Entries} (left : Agree first context)
    (right : Agree later context) : Agree (first ++ later) context := by
  intro path content bound
  rw [bound?_append, Option.or_eq_some_iff] at bound
  rcases bound with here | ⟨_, there⟩
  · exact left path content here
  · exact right path content there

def partBinding (valueName : Text) (entry : Value × Value) : Except Fault (Text × Text) := do
  let content ← entry.2.display
  return (valueName ++ '.' :: (← entry.1.name), content)

def nameBinding (entry : Value × Value) : Except Fault (Text × Text) := do
  return (← entry.1.name, ← entry.2.display)

theorem partBinding_of_isPlain (name key : Word) {value : Value} (plain : value.isPlain = true) :
    partBinding name.text (.text key.text, value) =
      .ok ((name.part key).text, value.shown.text) := by
  rw [partBinding, Value.display_eq_shown plain]
  rfl

theorem nameBinding_of_isPlain (key : Word) {value : Value} (plain : value.isPlain = true) :
    nameBinding (.text key.text, value) = .ok (key.path.text, value.shown.text) := by
  rw [nameBinding, Value.display_eq_shown plain]
  rfl

theorem mapM_cons_ok {f : α → Except Fault β} {first : α} {later : List α} {one : β}
    {rest : List β} (here : f first = .ok one) (there : later.mapM f = .ok rest) :
    (first :: later).mapM f = .ok (one :: rest) := by
  rw [List.mapM_cons, here, there]
  rfl

/-- The parts of a plain mapping are bound to what their keys stand for. -/
theorem exists_partBindings (name : Word) {entries : Entries} (plain : entries.IsPlain) :
    ∃ bindings : Bindings, entries.mapM (partBinding name.text) = .ok bindings.raw ∧
      ∀ path content, bound? path bindings = some content → ∃ key : Word,
        path = name.text ++ '.' :: key.text ∧
          (Entries.lookup key.text entries).isPlain = true ∧
            content = (Entries.lookup key.text entries).shown := by
  induction entries with
  | nil => exact ⟨[], rfl, by simp [bound?]⟩
  | cons entry entries ih =>
      obtain ⟨found, value⟩ := entry
      obtain ⟨⟨key, named, fresh⟩, here, rest⟩ := Entries.isPlain_cons.mp plain
      obtain ⟨bindings, written, agree⟩ := ih rest
      subst named
      refine ⟨(name.part key, value.shown) :: bindings,
        mapM_cons_ok (partBinding_of_isPlain name key here) written, ?_⟩
      intro path content bound
      rw [bound?] at bound
      split at bound
      · next same =>
          have itself : Entries.lookup key.text ((.text key.text, value) :: entries) = value := by
            rw [Entries.lookup, if_pos rfl]
          cases bound
          refine ⟨key, same.symm, ?_, ?_⟩
          · rw [itself]
            exact here
          · rw [itself]
      · next differs =>
          obtain ⟨other, dotted, plainPart, shown⟩ := agree path _ bound
          have distinct : Value.text key.text ≠ .text other.text := by
            intro same
            injection same with same
            apply differs
            rw [dotted, ← same]
            rfl
          refine ⟨other, dotted, ?_, ?_⟩
          · rw [Entries.lookup, if_neg distinct]
            exact plainPart
          · rw [Entries.lookup, if_neg distinct]
            exact shown

theorem exists_nameBindings {context : Entries} (plain : context.IsPlain) :
    ∃ bindings : Bindings,
      (context.filter fun entry => !entry.2.isMapping).mapM nameBinding = .ok bindings.raw ∧
      ∀ path content, bound? path bindings = some content →
        Entries.hasKey path context = true ∧ '.' ∉ path ∧
          (Entries.lookup path context).isPlain = true ∧
            content = (Entries.lookup path context).shown := by
  induction context with
  | nil => exact ⟨[], rfl, by simp [bound?]⟩
  | cons entry entries ih =>
      obtain ⟨found, value⟩ := entry
      obtain ⟨⟨key, named, fresh⟩, here, rest⟩ := Entries.isPlain_cons.mp plain
      obtain ⟨bindings, written, agree⟩ := ih rest
      subst named
      have later : ∀ path content, bound? path bindings = some content →
          Entries.hasKey path ((.text key.text, value) :: entries) = true ∧ '.' ∉ path ∧
            (Entries.lookup path ((.text key.text, value) :: entries)).isPlain = true ∧
              content = (Entries.lookup path ((.text key.text, value) :: entries)).shown := by
        intro path content bound
        obtain ⟨hasKey, noDot, plainValue, shown⟩ := agree path content bound
        have distinct : Value.text key.text ≠ .text path := by
          intro same
          injection same with same
          rw [same, hasKey] at fresh
          exact absurd fresh (by decide)
        refine ⟨?_, noDot, ?_, ?_⟩
        · rw [Entries.hasKey, List.any_cons, ← Entries.hasKey, hasKey, Bool.or_true]
        · rw [Entries.lookup, if_neg distinct]
          exact plainValue
        · rw [Entries.lookup, if_neg distinct]
          exact shown
      cases mapping : value.isMapping with
      | true =>
          refine ⟨bindings, ?_, later⟩
          rw [List.filter_cons_of_neg (by simp [mapping])]
          exact written
      | false =>
          refine ⟨(key.path, value.shown) :: bindings, ?_, ?_⟩
          · rw [List.filter_cons_of_pos (by simp [mapping])]
            exact mapM_cons_ok (nameBinding_of_isPlain key here) written
          · intro path content bound
            rw [bound?] at bound
            split at bound
            · next same =>
                have same : key.text = path := same
                subst same
                have itself :
                    Entries.lookup key.text ((.text key.text, value) :: entries) = value := by
                  rw [Entries.lookup, if_pos rfl]
                cases bound
                rw [itself]
                exact ⟨by simp [Entries.hasKey], key.dot_not_mem, here, rfl⟩
            · exact later path content bound

/-- What is bound in an iteration agrees with its context. -/
theorem exists_bindings (name : Word) {context : Entries} (plain : context.IsPlain) :
    ∃ parts names : Bindings,
      partBindings name.text (Entries.lookup name.text context) = .ok parts.raw ∧
      nameBindings context = .ok names.raw ∧ Agree (parts ++ names) context := by
  obtain ⟨names, namesWritten, namesAgree⟩ := exists_nameBindings plain
  have agreeNames : Agree names context := by
    intro path content bound
    obtain ⟨_, noDot, plainValue, shown⟩ := namesAgree path.text content bound
    have resolved := Entries.resolve_of_dot_not_mem noDot context
    rw [shown, ← resolved]
    apply Entries.shown?_of_isPlain
    rw [resolved]
    exact plainValue
  cases value : Entries.lookup name.text context with
  | map identity readOnly entries =>
      have plainParts : Entries.IsPlain entries := by
        rcases Entries.isPlain_lookup plain name.text with undefined | plainValue
        · rw [value] at undefined
          exact absurd undefined (by simp)
        · rw [value] at plainValue
          exact plainValue
      obtain ⟨parts, partsWritten, partsAgree⟩ := exists_partBindings name plainParts
      refine ⟨parts, names, partsWritten, namesWritten, agree_append ?_ agreeNames⟩
      intro path content bound
      obtain ⟨key, dotted, plainPart, shown⟩ := partsAgree path.text content bound
      have resolved := Entries.resolve_part name.dot_not_mem key.dot_not_mem value
      rw [shown, dotted, ← resolved]
      apply Entries.shown?_of_isPlain
      rw [resolved]
      exact plainPart
  | _ =>
      refine ⟨[], names, rfl, namesWritten, ?_⟩
      exact agreeNames

end Loop

end Stencil
