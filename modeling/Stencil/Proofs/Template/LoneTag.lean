import Stencil.Proofs.Template.Placeholder
import Stencil.Proofs.Template.Rendered

/-!
# A tag that stands alone in a loop

Before the passes of an iteration, the placeholders of all bound names are filled
in literally.  At a tag that stands alone this is the first name that the tag is
spelled like.  If the tag is read as that name, it is what the pass over
expressions fills in as well, so that an iteration ends as if there had been that
pass only; what it fills in is passed over again like any text of an iteration.
-/

namespace Stencil

open Tag

namespace Layout

theorem ofText_inert (tags : BlockTags) {text : Text} (inert : Text.isInert text = true) :
    ofText tags.marks text = ⟨[], text⟩ := by
  have whole := ofText_plain_append tags (Matcher.pieces_inert_append tags.opens inert [])
  have empty : ofText tags.marks [] = ⟨[], []⟩ := by
    rw [ofText, Matcher.pieces, ofPieces]
  rwa [empty, push, List.append_nil] at whole

/-- One tag makes no block. -/
theorem ofText_oneTag (tags : BlockTags) {before interior after : Text}
    (freeBefore : Text.isBraceFree before = true) (free : Text.isBraceFree interior = true)
    (freeAfter : Text.isBraceFree after = true) :
    ofText tags.marks (before ++ tagged interior ++ after) =
      ⟨[], before ++ tagged interior ++ after⟩ := by
  have inertAfter := Text.isInert_of_isBraceFree freeAfter
  have behind : ofText tags.marks after = ⟨[], after⟩ := ofText_inert tags inertAfter
  have fromTag : ofText tags.marks (tagged interior ++ after) =
      (ofText tags.marks after).push (tagged interior) := by
    cases marked : tags.mark? interior with
    | none => exact ofText_plain_append tags (tags.pieces_tagged_of_none free marked after)
    | some mark =>
        rw [ofText, tags.pieces_tagged_of_some free marked]
        cases mark with
        | opens header =>
            have unclosed : Block.inside? 0 (tags.marks.pieces after) = none := by
              have plain := Matcher.pieces_inert_append tags.opens inertAfter []
              rw [List.append_nil] at plain
              rw [plain, Block.inside?_plain_append, Matcher.pieces, Block.inside?]
              rfl
            exact ofPieces_of_not_inside? unclosed
        | closes =>
            rw [ofPieces]
            · rfl
            · simp
        | separates =>
            rw [ofPieces]
            · rfl
            · simp
  rw [List.append_assoc, ofText_plain_append tags
    (Matcher.pieces_inert_append tags.opens (Text.isInert_of_isBraceFree freeBefore) _),
    fromTag, behind]
  rfl

end Layout

/-- Whether the inside of a tag is read as a name: the expression is that name, and
it is neither cut into a pipeline nor a call, nor does it belong to a block tag. -/
structure Tag.ReadsAs (interior name : Text) : Prop where
  nonempty : interior ≠ []
  expression_eq : expression interior = name
  unreserved : Interpolation.isReserved name = false
  split_eq : Interpolation.split name = (name, [])
  call?_eq_none : Helper.Call.ofText? name = none

theorem TagPath.readsAs (path : TagPath) {interior : Text} (pads : Pads path.text interior) :
    ReadsAs interior path.text where
  nonempty := by
    obtain ⟨before, after, rfl, _⟩ := pads
    simp [path.wellFormed.1]
  expression_eq := by
    obtain ⟨before, after, rfl, blankBefore, blankAfter⟩ := pads
    rw [expression, Text.trim_eq_path path.wellFormed.2.1 path.wellFormed.1 blankBefore blankAfter,
      if_neg path.wellFormed.1]
  unreserved := path.isReserved_eq_false
  split_eq := path.split_eq
  call?_eq_none := path.call?_eq_none

namespace Interpolation

variable (interpolation : Interpolation) (context : Entries)

theorem outcome_fill_of_readsAs {interior name : Text} (readsAs : ReadsAs interior name) (raw : Text)
    (defined : Entries.resolve name context ≠ .undefined) :
    (interpolation.fill context raw (expression interior)).outcome =
      (Entries.resolve name context).display := by
  have shown : (interpolation.finish [] (Entries.resolve name context)).outcome =
      (Entries.resolve name context).display := rfl
  rw [readsAs.expression_eq, fill, readsAs.unreserved, if_neg Bool.false_ne_true, readsAs.split_eq]
  dsimp only
  rw [readsAs.call?_eq_none]
  dsimp only
  rw [← shown]
  split
  · next undefined => exact absurd undefined defined
  · rfl

theorem outcome_pass_oneTag {before interior after : Text}
    (freeBefore : Text.isBraceFree before = true) (free : Text.isBraceFree interior = true)
    (freeAfter : Text.isBraceFree after = true) (nonempty : interior ≠ []) :
    (interpolation.pass context (before ++ tagged interior ++ after)).outcome =
      together (together (.ok before)
        (interpolation.fill context (tagged interior) (expression interior)).outcome) (.ok after) :=
  (((Fills.inert (Text.isInert_of_isBraceFree freeBefore)).append
    (Fills.tagged interpolation context free nonempty)).append
      (Fills.inert (Text.isInert_of_isBraceFree freeAfter))).whole

end Interpolation

namespace Loop.Setting

variable (setting : Loop.Setting) (depth : Nat) (scope : Entries)

/-- What a number of passes over an iteration make of a text. -/
def cycles (count : Nat) (text : Text) : Except Fault Text :=
  repeated (fun text => (setting.cycle (setting.passWithin depth) scope text).outcome) count text

theorem outcome_cycle_of_no_block {text : Text}
    (conditions : Layout.ofText ifMarks text = ⟨[], text⟩)
    (loops : Layout.ofText foreachMarks text = ⟨[], text⟩) :
    (setting.cycle (setting.passWithin depth) scope text).outcome =
      (setting.interpolation.pass scope text).outcome := by
  have undecided : Condition.pass setting.literalFallback scope text = .ok text := by
    rw [Condition.pass, conditions]
    rfl
  have unexpanded : (setting.passWithin depth text scope).outcome = .ok text := by
    cases depth with
    | zero =>
        rw [passWithin, loops]
        rfl
    | succ depth =>
        rw [passWithin, loops]
        rfl
  rw [outcome_cycle, undecided]
  show ((setting.passWithin depth text scope).outcome >>= _) = _
  rw [unexpanded]
  rfl

theorem cycles_of_inert (count : Nat) {text : Text} (inert : Text.isInert text = true) :
    setting.cycles depth scope count text = .ok text := by
  apply repeated_of_fixed
  rw [outcome_cycle_of_no_block setting depth scope (Layout.ofText_inert BlockTags.ofIf inert)
    (Layout.ofText_inert BlockTags.ofForeach inert)]
  exact (Interpolation.Fills.inert inert).whole

end Loop.Setting

namespace Entries

/-- Whether the keys of some entries are texts, no two of them the same. -/
structure IsTextKeyed (entries : Entries) : Prop where
  texts : ∀ entry ∈ entries, ∃ key, entry.1 = .text key
  distinct : (entries.map Prod.fst).Nodup

theorem isTextKeyed_cons {key value : Value} {entries : Entries} :
    IsTextKeyed ((key, value) :: entries) ↔
      (∃ name, key = .text name) ∧ (∀ entry ∈ entries, entry.1 ≠ key) ∧ IsTextKeyed entries := by
  constructor
  · rintro ⟨texts, distinct⟩
    obtain ⟨here, later⟩ := List.forall_mem_cons.mp texts
    rw [List.map_cons, List.nodup_cons] at distinct
    refine ⟨here, ?_, later, distinct.2⟩
    intro entry member same
    exact distinct.1 (List.mem_map.mpr ⟨entry, member, same⟩)
  · rintro ⟨here, fresh, later, distinct⟩
    refine ⟨List.forall_mem_cons.mpr ⟨here, later⟩, ?_⟩
    rw [List.map_cons, List.nodup_cons]
    refine ⟨?_, distinct⟩
    intro member
    obtain ⟨entry, among, same⟩ := List.mem_map.mp member
    exact fresh entry among same

theorem lookup_of_mem {entries : Entries} (keyed : entries.IsTextKeyed) {key : Text}
    {value : Value} (member : (.text key, value) ∈ entries) : lookup key entries = value := by
  induction entries with
  | nil => exact absurd member List.not_mem_nil
  | cons entry entries ih =>
      obtain ⟨found, first⟩ := entry
      obtain ⟨_, fresh, later⟩ := isTextKeyed_cons.mp keyed
      rcases List.mem_cons.mp member with same | behind
      · cases same
        rw [lookup, if_pos rfl]
      · rw [lookup, if_neg (Ne.symm (fresh _ behind))]
        exact ih later behind

theorem isTextKeyed_set {entries : Entries} (keyed : entries.IsTextKeyed) (key : Text)
    (value : Value) : IsTextKeyed (set key value entries) := by
  induction entries with
  | nil => exact isTextKeyed_cons.mpr ⟨⟨key, rfl⟩, nofun, nofun, List.nodup_nil⟩
  | cons entry entries ih =>
      obtain ⟨found, old⟩ := entry
      obtain ⟨here, fresh, later⟩ := isTextKeyed_cons.mp keyed
      rw [set]
      split
      · exact isTextKeyed_cons.mpr ⟨here, fresh, later⟩
      · next differs =>
          refine isTextKeyed_cons.mpr ⟨here, ?_, ih later⟩
          rintro entry member rfl
          rcases mem_set member with same | among
          · exact differs same
          · exact fresh entry among rfl

end Entries

namespace Loop

theorem exists_of_mem_partBindings {valueName : Text} {value : Value}
    (keyed : Entries.IsTextKeyed (value.entries?.getD [])) {parts : List (Text × Text)}
    (bound : partBindings valueName value = .ok parts) {name content : Text}
    (member : (name, content) ∈ parts) :
    ∃ key part, (.text key, part) ∈ value.entries?.getD [] ∧ name = valueName ++ '.' :: key ∧
      part.display = .ok content := by
  obtain ⟨⟨found, part⟩, among, made⟩ := exists_of_mapM_eq_ok bound member
  obtain ⟨key, named⟩ := keyed.texts _ among
  subst named
  obtain ⟨shown, displayed, made⟩ := exists_of_bind_eq_ok made
  cases made
  exact ⟨key, part, among, rfl, displayed⟩

theorem exists_of_mem_nameBindings {context : Entries} (keyed : context.IsTextKeyed)
    {names : List (Text × Text)} (bound : nameBindings context = .ok names) {name content : Text}
    (member : (name, content) ∈ names) :
    ∃ value, (.text name, value) ∈ context ∧ value.isMapping = false ∧
      value.display = .ok content := by
  obtain ⟨⟨found, value⟩, among, made⟩ := exists_of_mapM_eq_ok bound member
  obtain ⟨inside, noMapping⟩ := List.mem_filter.mp among
  obtain ⟨key, named⟩ := keyed.texts _ inside
  subst named
  obtain ⟨name, spelled, made⟩ := exists_of_bind_eq_ok made
  obtain ⟨shown, displayed, made⟩ := exists_of_bind_eq_ok made
  cases spelled
  cases made
  exact ⟨value, inside, by simpa using noMapping, displayed⟩

/-- A loop body with one tag, between texts without braces, and an iteration over it:
the context and the entry, whose keys are texts, and the names and texts that are
bound, those of the parts of the entry first. -/
structure LoneTag where
  before : Text
  interior : Text
  after : Text
  freeBefore : Text.isBraceFree before = true
  free : Text.isBraceFree interior = true
  freeAfter : Text.isBraceFree after = true
  block : Block
  alone : block.body = before ++ tagged interior ++ after
  context : Entries
  entry : Value × Value
  keyed : context.IsTextKeyed
  keyedParts : Entries.IsTextKeyed (entry.2.entries?.getD [])
  parts : List (Text × Text)
  names : List (Text × Text)
  boundParts : partBindings (Spec.ofText block.header).valueName entry.2 = .ok parts
  boundNames :
    nameBindings (scope (Spec.ofText block.header) context entry.1 entry.2) = .ok names

namespace LoneTag

variable (tag : LoneTag) (setting : Loop.Setting) (depth : Nat)

def spec : Spec :=
  Spec.ofText tag.block.header

def scope : Entries :=
  Loop.scope tag.spec tag.context tag.entry.1 tag.entry.2

/-- What the iteration comes to, loops being nested `depth` deep at most. -/
def outcome : Except Fault Text :=
  (setting.iteration (setting.passWithin depth) tag.block tag.spec tag.context tag.entry).outcome

/-- What the pass over expressions alone makes of the body in the context of the
iteration. -/
def filled : Except Fault Text :=
  (setting.interpolation.pass tag.scope tag.block.body).outcome

/-- Whether every bound name that the tag is spelled like is the name that the tag is
read as, and leads to what is bound: it has no dot but the one before the name of a
part, and it stands for something. -/
structure IsReadAsBound : Prop where
  names : ∀ key value, (.text key, value) ∈ tag.scope → value.isMapping = false →
    Pads key tag.interior → ReadsAs tag.interior key ∧ '.' ∉ key ∧ value ≠ .undefined
  parts : ∀ key part, (.text key, part) ∈ tag.entry.2.entries?.getD [] →
    Pads (tag.spec.valueName ++ '.' :: key) tag.interior →
      ReadsAs tag.interior (tag.spec.valueName ++ '.' :: key) ∧ '.' ∉ key ∧ part ≠ .undefined

theorem isTextKeyed_scope : tag.scope.IsTextKeyed :=
  Entries.isTextKeyed_set (Entries.isTextKeyed_set tag.keyed _ _) _ _

theorem isWord_valueName : tag.spec.valueName.all Text.isWord = true :=
  (Spec.all_isWord_names tag.block.header).2

theorem dot_not_mem_valueName : '.' ∉ tag.spec.valueName := fun member =>
  absurd (List.all_eq_true.mp tag.isWord_valueName '.' member) (by decide)

/-- A bound name that the tag is spelled like stands for what is bound. -/
theorem resolve_of_mem (readAsBound : tag.IsReadAsBound) {name content : Text}
    (member : (name, content) ∈ tag.parts ++ tag.names) (pads : Pads name tag.interior) :
    ReadsAs tag.interior name ∧ Entries.resolve name tag.scope ≠ .undefined ∧
      (Entries.resolve name tag.scope).display = .ok content := by
  rcases List.mem_append.mp member with ofPart | ofName
  · obtain ⟨key, part, among, rfl, displayed⟩ :=
      exists_of_mem_partBindings tag.keyedParts tag.boundParts ofPart
    obtain ⟨readsAs, noDot, defined⟩ := readAsBound.parts key part among pads
    have stands : Entries.resolve (tag.spec.valueName ++ '.' :: key) tag.scope = part := by
      have bound : Entries.lookup tag.spec.valueName tag.scope = tag.entry.2 :=
        Entries.lookup_set_self _ _ _
      have keyed := tag.keyedParts
      cases value : tag.entry.2 with
      | map identity readOnly parts =>
          rw [value] at bound among keyed
          rw [Entries.resolve_part tag.dot_not_mem_valueName noDot bound]
          exact Entries.lookup_of_mem keyed among
      | _ =>
          rw [value] at among
          exact absurd among List.not_mem_nil
    rw [← stands] at defined displayed
    exact ⟨readsAs, defined, displayed⟩
  · obtain ⟨value, among, noMapping, displayed⟩ :=
      exists_of_mem_nameBindings tag.isTextKeyed_scope tag.boundNames ofName
    obtain ⟨readsAs, noDot, defined⟩ := readAsBound.names name value among noMapping pads
    have stands : Entries.resolve name tag.scope = value := by
      rw [Entries.resolve_of_dot_not_mem noDot]
      exact Entries.lookup_of_mem tag.isTextKeyed_scope among
    rw [← stands] at defined displayed
    exact ⟨readsAs, defined, displayed⟩

theorem outcome_eq_cycles :
    tag.outcome setting depth = setting.cycles depth tag.scope setting.passes
      (bind (tag.parts ++ tag.names) (tag.before ++ tagged tag.interior ++ tag.after)) := by
  have layout := Layout.ofText_oneTag BlockTags.ofForeach tag.freeBefore tag.free tag.freeAfter
  have boundBody : bindOutside (tag.parts ++ tag.names) tag.block.body =
      bind (tag.parts ++ tag.names) (tag.before ++ tagged tag.interior ++ tag.after) := by
    have whole : Layout.ofText foreachMarks tag.block.body = ⟨[], tag.block.body⟩ := by
      rw [tag.alone]
      exact layout
    rw [bindOutside, whole, tag.alone]
    rfl
  rw [outcome, spec, Setting.outcome_iteration, tag.boundParts, tag.boundNames]
  show repeated _ setting.passes (bindOutside (tag.parts ++ tag.names) tag.block.body) = _
  rw [boundBody]
  rfl

/-- One tag makes no block, so that a pass over the body is the pass over
expressions. -/
theorem outcome_cycle :
    (setting.cycle (setting.passWithin depth) tag.scope tag.block.body).outcome =
      tag.filled setting := by
  apply Setting.outcome_cycle_of_no_block
  · rw [tag.alone]
    exact Layout.ofText_oneTag BlockTags.ofIf tag.freeBefore tag.free tag.freeAfter
  · rw [tag.alone]
    exact Layout.ofText_oneTag BlockTags.ofForeach tag.freeBefore tag.free tag.freeAfter

/-- If no name is bound that the tag is spelled like, the first pass makes of the body
what the pass over expressions makes of it. -/
theorem outcome_of_isUnbound (unbound : IsUnbound tag.interior (tag.parts ++ tag.names))
    {count : Nat} (passes : count + 1 = setting.passes) :
    tag.outcome setting depth =
      tag.filled setting >>= setting.cycles depth tag.scope count := by
  rw [outcome_eq_cycles, bind_of_isUnbound tag.freeBefore tag.free tag.freeAfter unbound,
    ← tag.alone, ← passes, Setting.cycles, repeated, outcome_cycle]
  rfl

/-- Otherwise the passes begin with what the first such name is bound to. -/
theorem outcome_of_boundAt {content : Text} {later : List (Text × Text)}
    (bound : BoundAt tag.interior content later (tag.parts ++ tag.names)) :
    tag.outcome setting depth = setting.cycles depth tag.scope setting.passes
      (bind later (tag.before ++ content ++ tag.after)) := by
  rw [outcome_eq_cycles, bind_of_boundAt tag.freeBefore tag.free tag.freeAfter bound]

theorem filled_of_boundAt (readAsBound : tag.IsReadAsBound) {content : Text}
    {later : List (Text × Text)}
    (bound : BoundAt tag.interior content later (tag.parts ++ tag.names)) :
    tag.filled setting = .ok (tag.before ++ content ++ tag.after) := by
  obtain ⟨name, member, pads⟩ := bound.exists_mem
  obtain ⟨readsAs, defined, displayed⟩ := tag.resolve_of_mem readAsBound member pads
  rw [filled, tag.alone, Interpolation.outcome_pass_oneTag _ _ tag.freeBefore tag.free
    tag.freeAfter readsAs.nonempty, Interpolation.outcome_fill_of_readsAs _ _ readsAs _ defined,
    displayed]
  rfl

/-- An iteration is the pass over expressions, and then what is done to any text of an
iteration. -/
theorem exists_outcome_eq (readAsBound : tag.IsReadAsBound) (passes : 0 < setting.passes) :
    ∃ later count,
      (later = [] ∧ count + 1 = setting.passes ∨
        later <:+ tag.parts ++ tag.names ∧ count = setting.passes) ∧
      tag.outcome setting depth =
        tag.filled setting >>= fun text =>
          setting.cycles depth tag.scope count (bind later text) := by
  rcases isUnbound_or_boundAt tag.interior (tag.parts ++ tag.names) with
    unbound | ⟨content, later, bound⟩
  · have counted : setting.passes - 1 + 1 = setting.passes := by omega
    exact ⟨[], setting.passes - 1, .inl ⟨rfl, counted⟩,
      tag.outcome_of_isUnbound setting depth unbound counted⟩
  · refine ⟨later, setting.passes, .inr ⟨bound.suffix, rfl⟩, ?_⟩
    rw [tag.filled_of_boundAt setting readAsBound bound]
    exact tag.outcome_of_boundAt setting depth bound

theorem isUnbound_of_isReserved (readAsBound : tag.IsReadAsBound)
    (reserved : Interpolation.isReserved (expression tag.interior) = true) :
    IsUnbound tag.interior (tag.parts ++ tag.names) := by
  intro binding member pads
  obtain ⟨readsAs, _⟩ := tag.resolve_of_mem readAsBound member pads
  rw [readsAs.expression_eq, readsAs.unreserved] at reserved
  exact absurd reserved (by decide)

theorem filled_of_isReserved
    (reserved : Interpolation.isReserved (expression tag.interior) = true) :
    tag.filled setting = .ok tag.block.body := by
  have nonempty : tag.interior ≠ [] := by
    intro empty
    rw [empty] at reserved
    exact absurd reserved (by decide)
  rw [filled, tag.alone, Interpolation.outcome_pass_oneTag _ _ tag.freeBefore tag.free
    tag.freeAfter nonempty, Interpolation.fill, reserved, if_pos rfl]
  rfl

/-- A block tag is left alone by every pass. -/
theorem outcome_of_isReserved (unbound : IsUnbound tag.interior (tag.parts ++ tag.names))
    (reserved : Interpolation.isReserved (expression tag.interior) = true)
    (passes : 0 < setting.passes) : tag.outcome setting depth = .ok tag.block.body := by
  have left := tag.filled_of_isReserved setting reserved
  have counted : setting.passes - 1 + 1 = setting.passes := by omega
  rw [tag.outcome_of_isUnbound setting depth unbound counted, left]
  exact repeated_of_fixed ((tag.outcome_cycle setting depth).trans left) _

theorem isReadAsBound_of_words
    (names : ∀ entry ∈ tag.scope, entry.2 ≠ .undefined ∧ ∃ word : Word, entry.1 = .text word.text)
    (parts : ∀ entry ∈ tag.entry.2.entries?.getD [], entry.2 ≠ .undefined ∧
      ∃ key : Text, entry.1 = .text key ∧ key.all Text.isWord = true) : tag.IsReadAsBound where
  names := by
    intro key value member _ pads
    obtain ⟨defined, word, same⟩ := names _ member
    cases same
    exact ⟨word.path.readsAs pads, word.dot_not_mem, defined⟩
  parts := by
    intro key part member pads
    obtain ⟨defined, word, same, words⟩ := parts _ member
    cases same
    have noDot : '.' ∉ key := fun dot =>
      absurd (List.all_eq_true.mp words '.' dot) (by decide)
    exact ⟨TagPath.readsAs ⟨_, TagPath.wellFormed_part tag.isWord_valueName words⟩ pads, noDot,
      defined⟩

/-- A tag that stands alone in a loop body and is read as what is bound comes to what
the pass over expressions alone makes of it in the context of the iteration: that is
passed over again, and is the text of the iteration if no tag is in it; a block tag
stays.  At any other tag that belongs to no block, the first bound name that it is
spelled like is filled in literally.  And in any text a tag of an `if` block stays
where it is: no part of a value is bound to a name that it is spelled like, and it is
left alone if no key of the context is one. -/
theorem outcome_eq_filled (passes : 0 < setting.passes) :
    (tag.IsReadAsBound →
      (∃ later count,
        (later = [] ∧ count + 1 = setting.passes ∨
          later <:+ tag.parts ++ tag.names ∧ count = setting.passes) ∧
        tag.outcome setting depth =
          tag.filled setting >>= fun text =>
            setting.cycles depth tag.scope count (bind later text)) ∧
      ((∀ text, tag.filled setting = .ok text → Text.isInert text = true) →
        tag.outcome setting depth = tag.filled setting) ∧
      (Interpolation.isReserved (expression tag.interior) = true →
        tag.outcome setting depth = .ok tag.block.body)) ∧
    (Interpolation.isReserved (expression tag.interior) = false → ifMark? tag.interior = none →
      ∀ content later, BoundAt tag.interior content later (tag.parts ++ tag.names) →
        tag.outcome setting depth = setting.cycles depth tag.scope setting.passes
          (bind later (tag.before ++ content ++ tag.after))) ∧
    ∀ (interior : Text) (mark : Mark), Text.isBraceFree interior = true →
      ifMark? interior = some mark → IsUnbound interior tag.names →
      (∀ binding ∈ tag.parts ++ tag.names, Text.isBraceFree binding.1 = true) →
      ∀ before after, bind (tag.parts ++ tag.names) (before ++ tagged interior ++ after) =
        bind (tag.parts ++ tag.names) before ++ tagged interior ++
          bind (tag.parts ++ tag.names) after := by
  refine ⟨fun readAsBound => ⟨?agrees, ?settled, ?kept⟩, ?literal, ?stays⟩
  case agrees => exact tag.exists_outcome_eq setting depth readAsBound passes
  case settled =>
    intro inert
    obtain ⟨later, count, _, same⟩ := tag.exists_outcome_eq setting depth readAsBound passes
    rw [same]
    cases filled : tag.filled setting with
    | error fault => rfl
    | ok text =>
        have unread := bind_inert_append later (inert text filled) []
        rw [bind_nil_text, List.append_nil] at unread
        show setting.cycles depth tag.scope count (bind later text) = .ok text
        rw [unread, Setting.cycles_of_inert _ _ _ _ (inert text filled)]
  case kept =>
    intro reserved
    exact tag.outcome_of_isReserved setting depth (tag.isUnbound_of_isReserved readAsBound reserved)
      reserved passes
  case literal =>
    intro _ _ content later bound
    exact tag.outcome_of_boundAt setting depth bound
  case stays =>
    intro interior mark free marked unbound namesFree before after
    apply bind_append_tagged_append free _ namesFree
    intro binding member
    rcases List.mem_append.mp member with ofPart | ofName
    · obtain ⟨key, _, _, spelled, _⟩ :=
        exists_of_mem_partBindings tag.keyedParts tag.boundParts ofPart
      rw [spelled]
      exact not_pads_part tag.isWord_valueName key marked
    · exact unbound binding ofName

end LoneTag

def greetingBlock : Block :=
  ⟨"{{foreach:people as i => p}}".toList, "people as i => p".toList, "Hi {{ p.name }}!".toList, none,
    endforeachTag⟩

def greeting : LoneTag where
  before := "Hi ".toList
  interior := " p.name ".toList
  after := "!".toList
  freeBefore := by decide
  free := by decide
  freeAfter := by decide
  block := greetingBlock
  alone := by decide
  context := [(.text "title".toList, .text "T".toList)]
  entry := (.int 0, .map 1 false [(.text "name".toList, .text "Ann".toList)])
  keyed := Entries.isTextKeyed_cons.mpr ⟨⟨_, rfl⟩, nofun, nofun, List.nodup_nil⟩
  keyedParts := Entries.isTextKeyed_cons.mpr ⟨⟨_, rfl⟩, nofun, nofun, List.nodup_nil⟩
  parts := [("p.name".toList, "Ann".toList)]
  names := [("title".toList, "T".toList), ("i".toList, "0".toList)]
  boundParts := by decide +kernel
  boundNames := by decide +kernel

theorem greeting_isReadAsBound : greeting.IsReadAsBound := by
  have entries : greeting.scope =
      [(.text "title".toList, .text "T".toList), (.text "i".toList, .int 0),
        (.text "p".toList, greeting.entry.2)] := by
    decide +kernel
  apply greeting.isReadAsBound_of_words
  · rw [entries]
    simp only [List.forall_mem_cons]
    refine ⟨⟨by decide, ⟨"title".toList, by decide⟩, rfl⟩, ⟨by decide, ⟨['i'], by decide⟩, rfl⟩,
      ⟨by decide, ⟨['p'], by decide⟩, rfl⟩, nofun⟩
  · exact List.forall_mem_cons.mpr ⟨⟨by decide, "name".toList, rfl, by decide⟩, nofun⟩

/-- The name of the person is filled in as the pass over expressions would do it, and a
tag between two tags that are filled in stays. -/
theorem LoneTag.outcome_greeting :
    greeting.outcome (Engine.standard.rendering Options.default).loops 1 = .ok "Hi Ann!".toList ∧
      bind (greeting.parts ++ greeting.names)
          ("{{p.name}} ".toList ++ tagged elseWord ++ " {{i}}".toList) =
        "Ann ".toList ++ tagged elseWord ++ " 0".toList := by
  have filled : greeting.filled (Engine.standard.rendering Options.default).loops =
      .ok "Hi Ann!".toList := by
    decide +kernel
  obtain ⟨agrees, _, stays⟩ :=
    greeting.outcome_eq_filled (Engine.standard.rendering Options.default).loops 1 (by decide)
  obtain ⟨_, settled, _⟩ := agrees greeting_isReadAsBound
  constructor
  · refine (settled ?_).trans filled
    intro text here
    rw [filled] at here
    cases here
    decide
  · have unbound : IsUnbound elseWord greeting.names := by
      intro binding member pads
      obtain ⟨before, after, whole, _⟩ := pads
      have inside : binding.1 <:+: elseWord := ⟨before, after, whole.symm⟩
      have outside : ∀ binding ∈ greeting.names, ¬ binding.1 <:+: elseWord := by decide
      exact outside binding member inside
    have filledAround := stays elseWord .separates (by decide) (by decide) unbound (by decide)
      "{{p.name}} ".toList " {{i}}".toList
    exact filledAround.trans (by decide +kernel)

/-- A tag in a loop whose context has a key with a dot. -/
def dotted : LoneTag where
  before := []
  interior := "a.b".toList
  after := []
  freeBefore := rfl
  free := by decide
  freeAfter := rfl
  block := ⟨"{{foreach:items as k => v}}".toList, "items as k => v".toList,
    "{{a.b}}".toList, none, endforeachTag⟩
  alone := by decide
  context := [(.text "a.b".toList, .text "X".toList)]
  entry := (.int 0, .int 1)
  keyed := Entries.isTextKeyed_cons.mpr ⟨⟨_, rfl⟩, nofun, nofun, List.nodup_nil⟩
  keyedParts := ⟨nofun, List.nodup_nil⟩
  parts := []
  names := [("a.b".toList, ['X']), (['k'], ['0']), (['v'], ['1'])]
  boundParts := rfl
  boundNames := by decide +kernel

/-- A key with a dot is filled in literally, where the pass over expressions follows the
path and finds nothing. -/
theorem LoneTag.outcome_dotted :
    dotted.outcome (Engine.standard.rendering Options.default).loops 1 = .ok ['X'] ∧
      dotted.filled (Engine.standard.rendering Options.default).loops =
        .ok (tagged "a.b".toList) := by
  decide +kernel

/-- A block tag that a bound name is spelled like is filled in as well, although the pass
over expressions leaves it. -/
theorem LoneTag.outcome_of_isReserved_of_boundAt (tag : LoneTag) (setting : Loop.Setting)
    (depth : Nat) (reserved : Interpolation.isReserved (expression tag.interior) = true)
    {content : Text} {later : List (Text × Text)}
    (bound : BoundAt tag.interior content later (tag.parts ++ tag.names)) :
    tag.filled setting = .ok tag.block.body ∧
      tag.outcome setting depth = setting.cycles depth tag.scope setting.passes
        (bind later (tag.before ++ content ++ tag.after)) :=
  ⟨tag.filled_of_isReserved setting reserved, tag.outcome_of_boundAt setting depth bound⟩

/-- A separator in a loop whose context has a key that is spelled like it. -/
def separatorKeyed : LoneTag where
  before := ['a']
  interior := Tag.elseWord
  after := ['b']
  freeBefore := rfl
  free := by decide
  freeAfter := rfl
  block := ⟨"{{foreach:items as k => v}}".toList, "items as k => v".toList,
    "a{{else}}b".toList, none, endforeachTag⟩
  alone := by decide
  context := [(.text Tag.elseWord, .text "X".toList)]
  entry := (.int 0, .int 1)
  keyed := Entries.isTextKeyed_cons.mpr ⟨⟨_, rfl⟩, nofun, nofun, List.nodup_nil⟩
  keyedParts := ⟨nofun, List.nodup_nil⟩
  parts := []
  names := [(Tag.elseWord, ['X']), (['k'], ['0']), (['v'], ['1'])]
  boundParts := rfl
  boundNames := by decide +kernel

example :
    separatorKeyed.outcome (Engine.standard.rendering Options.default).loops 1 =
        .ok "aXb".toList ∧
      separatorKeyed.filled (Engine.standard.rendering Options.default).loops =
        .ok "a{{else}}b".toList := by
  decide +kernel

end Loop

end Stencil
