import Mathlib.Data.List.Basic
import Mathlib.Data.List.Pairwise
import Stencil.Proofs.Text.Split

/-!
# Replacing first occurrences

Several needles are replaced in a text, each where it occurs first and by something of
its own length.  If they have no character in common, and no replacement has a
character of a needle, then a replacement leaves the first occurrences of the other
needles where they are.  So it makes no difference whether the needles are replaced
one after the other, in whatever order, or all at once.
-/

namespace Stencil.Text

/-- The position at which a needle first occurs in a text: the least one from which on
the text reads like the needle. -/
def firstAt? (needle text : Text) : Option Nat :=
  (List.range (text.length + 1)).find? fun start => needle.isPrefixOf (text.drop start)

/-- Whether a position of a text belongs to the first occurrence of a needle. -/
def isWithinFirst (needle text : Text) (position : Nat) : Bool :=
  match firstAt? needle text with
  | some start => start ≤ position && position < start + needle.length
  | none => false

/-- What stands for a character of a text when needles are replaced in it.  The first
character of a first occurrence gives way to the whole replacement and the others of
it to nothing. -/
def writtenFor (entries : List (Text × Text)) (text : Text) (position : Nat) (char : Char) :
    Text :=
  match entries.find? fun entry => isWithinFirst entry.1 text position with
  | some (needle, replacement) => if firstAt? needle text = some position then replacement else []
  | none => [char]

/-- The text with every needle replaced where it first occurs in that text, all at
once. -/
def replaceAtOnce (entries : List (Text × Text)) (text : Text) : Text :=
  text.zipIdx.flatMap fun pair => writtenFor entries text pair.2 pair.1

/-- The text with one needle after the other replaced where it first occurs in what
the earlier replacements have left. -/
def replaceInTurn (entries : List (Text × Text)) (text : Text) : Text :=
  entries.foldl (fun text (needle, replacement) => replaceFirst needle replacement text) text

/-- Needles with replacements of their length that have nothing to do with each
other. -/
structure Independent (entries : List (Text × Text)) : Prop where
  fits : ∀ entry ∈ entries, entry.1 ≠ [] ∧ entry.2.length = entry.1.length
  apart : entries.Pairwise fun first second => List.Disjoint first.1 second.1
  clean : ∀ entry ∈ entries, ∀ other ∈ entries, List.Disjoint entry.2 other.1

theorem find?_perm {α : Type} (accepts : α → Bool) {members order : List α}
    (reordered : order.Perm members)
    (unique : ∀ first ∈ members, ∀ second ∈ members, accepts first = true →
      accepts second = true → first = second) :
    order.find? accepts = members.find? accepts := by
  cases here : members.find? accepts with
  | none =>
      rw [List.find?_eq_none] at here ⊢
      exact fun member inside => here member (reordered.mem_iff.mp inside)
  | some member =>
      have inside := List.mem_of_find?_eq_some here
      have some : (order.find? accepts).isSome :=
        List.find?_isSome.mpr ⟨member, reordered.mem_iff.mpr inside, List.find?_some here⟩
      obtain ⟨other, there⟩ := Option.isSome_iff_exists.mp some
      rw [there, unique other (reordered.mem_iff.mp (List.mem_of_find?_eq_some there)) member inside
        (List.find?_some there) (List.find?_some here)]

section Occurrence

variable {needle : Text}

theorem not_prefix_drop_of_cut? {text before rest : Text}
    (found : cut? needle text = some (before, rest)) {start : Nat}
    (earlier : start < before.length) :
    ¬ needle <+: text.drop start := by
  induction text generalizing before start with
  | nil =>
      have whole := congrArg List.length (eq_append_of_cut? found)
      simp only [List.length_nil, List.length_append] at whole
      omega
  | cons char text ih =>
      rw [cut?] at found
      split at found
      · cases found
        exact absurd earlier (Nat.not_lt_zero start)
      · next none =>
          simp only [Option.map_eq_some_iff, Prod.mk.injEq, Prod.exists] at found
          obtain ⟨front, tail, later, rfl, rfl⟩ := found
          cases start with
          | zero =>
              rintro ⟨behind, begins⟩
              rw [List.drop_zero] at begins
              rw [after?_eq_some_iff.mpr begins.symm] at none
              exact absurd none (by simp)
          | succ start => exact ih later (Nat.lt_of_succ_lt_succ earlier)

/-- A text is cut where the needle first occurs. -/
theorem firstAt?_eq (needle text : Text) :
    firstAt? needle text = (cut? needle text).map fun (before, _) => before.length := by
  cases found : cut? needle text with
  | none =>
      refine List.find?_eq_none.mpr fun start _ begins => cut?_eq_none_iff.mp found ?_
      have here : needle <+: text.drop start := List.isPrefixOf_iff_prefix.mp begins
      exact here.isInfix.trans (List.drop_suffix start text).isInfix
  | some cut =>
      obtain ⟨before, rest⟩ := cut
      have whole := eq_append_of_cut? found
      have lengths := congrArg List.length whole
      simp only [List.length_append] at lengths
      refine List.find?_range_eq_some.mpr
        ⟨?_, List.mem_range.mpr (show before.length < _ by omega), fun start earlier => ?_⟩
      · refine List.isPrefixOf_iff_prefix.mpr ⟨rest, ?_⟩
        rw [whole, List.append_assoc, List.drop_left]
      · rw [Bool.not_eq_true', Bool.eq_false_iff]
        exact fun begins =>
          not_prefix_drop_of_cut? found earlier (List.isPrefixOf_iff_prefix.mp begins)

theorem cut?_append_of_disjoint (nonempty : needle ≠ []) {middle : Text}
    (disjoint : List.Disjoint middle needle) (rest : Text) :
    cut? needle (middle ++ rest) =
      (cut? needle rest).map fun (before, after) => (middle ++ before, after) := by
  induction middle with
  | nil => simp
  | cons char middle ih =>
      obtain ⟨absent, later⟩ := List.disjoint_cons_left.mp disjoint
      have nowhere : ¬ needle <:+: [] := fun inside => nonempty (List.infix_nil.mp inside)
      have step := cut?_append_cons nonempty absent nowhere (middle ++ rest)
      rw [List.nil_append, ih later, Option.map_map] at step
      rw [List.cons_append, step]
      rfl

/-- A stretch that has no character of a needle parts the places where the needle can
occur. -/
theorem firstAt?_append_append (nonempty : needle ≠ []) {middle : Text} (some : middle ≠ [])
    (disjoint : List.Disjoint middle needle) (front rest : Text) :
    firstAt? needle (front ++ middle ++ rest) =
      (firstAt? needle front).or
        ((firstAt? needle rest).map (· + (front.length + middle.length))) := by
  rw [List.append_assoc]
  cases found : cut? needle front with
  | some cut =>
      rw [firstAt?_eq, cut?_append found, firstAt?_eq, found]
      rfl
  | none =>
      obtain ⟨stop, middle, rfl⟩ := List.exists_cons_of_ne_nil some
      obtain ⟨absent, later⟩ := List.disjoint_cons_left.mp disjoint
      have behind := cut?_append_cons nonempty absent (cut?_eq_none_iff.mp found) (middle ++ rest)
      rw [firstAt?_eq, List.cons_append, behind, cut?_append_of_disjoint nonempty later,
        firstAt?_eq, found, firstAt?_eq]
      cases cut? needle rest with
      | none => rfl
      | some cut =>
          simp only [Option.map_some, Option.map_none, Option.none_or, Option.some.injEq,
            List.length_append, List.length_cons]
          omega

theorem prefix_drop_of_firstAt? {text : Text} {start : Nat}
    (found : firstAt? needle text = some start) : needle <+: text.drop start :=
  List.isPrefixOf_iff_prefix.mp (List.find?_range_eq_some.mp found).1

theorem exists_getElem?_of_isWithinFirst {text : Text} {position : Nat}
    (within : isWithinFirst needle text position = true) :
    ∃ char ∈ needle, text[position]? = some char := by
  rw [isWithinFirst] at within
  split at within
  · next start found =>
      simp only [Bool.and_eq_true, decide_eq_true_eq] at within
      obtain ⟨rest, behind⟩ := prefix_drop_of_firstAt? found
      have inside : position - start < needle.length := by omega
      refine ⟨needle[position - start], List.getElem_mem inside, ?_⟩
      calc text[position]? = (text.drop start)[position - start]? := by
            rw [List.getElem?_drop, Nat.add_sub_cancel' within.1]
        _ = (needle ++ rest)[position - start]? := by rw [behind]
        _ = some needle[position - start] := by
            rw [List.getElem?_append_left inside, List.getElem?_eq_getElem inside]
  · exact absurd within (by simp)

theorem isWithinFirst_congr {text other : Text}
    (same : firstAt? needle text = firstAt? needle other) (position : Nat) :
    isWithinFirst needle text position = isWithinFirst needle other position := by
  rw [isWithinFirst, isWithinFirst, same]

end Occurrence

theorem replaceFirst_cases (needle replacement text : Text) :
    (firstAt? needle text = none ∧ replaceFirst needle replacement text = text) ∨
      ∃ before rest, firstAt? needle text = some before.length ∧
        text = before ++ needle ++ rest ∧
        replaceFirst needle replacement text = before ++ replacement ++ rest := by
  rw [firstAt?_eq, replaceFirst]
  cases cut : cut? needle text with
  | none => exact .inl ⟨rfl, rfl⟩
  | some parts => exact .inr ⟨parts.1, parts.2, rfl, eq_append_of_cut? cut, rfl⟩

section Step

variable {needle replacement : Text}

theorem length_replaceFirst (same : replacement.length = needle.length) (text : Text) :
    (replaceFirst needle replacement text).length = text.length := by
  rcases replaceFirst_cases needle replacement text with
    ⟨_, unchanged⟩ | ⟨before, rest, _, whole, replaced⟩
  · rw [unchanged]
  · have lengths := congrArg List.length whole
    rw [replaced]
    simp only [List.length_append] at lengths ⊢
    omega

theorem getElem?_replaceFirst (same : replacement.length = needle.length) {text : Text}
    {position : Nat} (outside : isWithinFirst needle text position = false) :
    (replaceFirst needle replacement text)[position]? = text[position]? := by
  rcases replaceFirst_cases needle replacement text with
    ⟨_, unchanged⟩ | ⟨before, rest, found, whole, replaced⟩
  · rw [unchanged]
  · simp only [isWithinFirst, found, Bool.and_eq_false_iff, decide_eq_false_iff_not] at outside
    rw [replaced, whole]
    rcases Nat.lt_or_ge position before.length with front | behind
    · rw [List.append_assoc, List.append_assoc, List.getElem?_append_left front,
        List.getElem?_append_left front]
    · have old : (before ++ needle).length ≤ position := by
        rw [List.length_append]
        omega
      have new : (before ++ replacement).length ≤ position := by
        rw [List.length_append, same, ← List.length_append]
        exact old
      rw [List.getElem?_append_right new, List.getElem?_append_right old, List.length_append,
        List.length_append, same]

/-- A replacement neither creates nor destroys nor moves the first occurrence of a
needle that has no character in common with what goes and what comes. -/
theorem firstAt?_replaceFirst {other : Text} (nonempty : needle ≠ []) (otherNonempty : other ≠ [])
    (same : replacement.length = needle.length) (goes : List.Disjoint needle other)
    (comes : List.Disjoint replacement other) (text : Text) :
    firstAt? other (replaceFirst needle replacement text) = firstAt? other text := by
  rcases replaceFirst_cases needle replacement text with
    ⟨_, unchanged⟩ | ⟨before, rest, _, whole, replaced⟩
  · rw [unchanged]
  · have some : replacement ≠ [] := by
      rw [← List.length_pos_iff, same, List.length_pos_iff]
      exact nonempty
    rw [replaced, whole, firstAt?_append_append otherNonempty some comes,
      firstAt?_append_append otherNonempty nonempty goes, same]

end Step

section AtOnce

variable {entries : List (Text × Text)}

theorem writtenFor_of_outside {text : Text} {position : Nat} {char : Char}
    (outside : ∀ entry ∈ entries, isWithinFirst entry.1 text position = false) :
    writtenFor entries text position char = [char] := by
  have none : (entries.find? fun entry => isWithinFirst entry.1 text position) = none :=
    List.find?_eq_none.mpr fun entry member => by
      rw [outside entry member]
      exact Bool.false_ne_true
  rw [writtenFor, none]

theorem writtenFor_cons_of_within {needle replacement text : Text} {position : Nat} {char : Char}
    (within : isWithinFirst needle text position = true) :
    writtenFor ((needle, replacement) :: entries) text position char =
      if firstAt? needle text = some position then replacement else [] := by
  have found := List.find?_cons_of_pos (p := fun entry => isWithinFirst entry.1 text position)
    (a := (needle, replacement)) (l := entries) within
  rw [writtenFor, found]

theorem writtenFor_cons_of_outside {needle replacement text : Text} {position : Nat} {char : Char}
    (outside : isWithinFirst needle text position = false) :
    writtenFor ((needle, replacement) :: entries) text position char =
      writtenFor entries text position char := by
  rw [writtenFor, List.find?_cons_of_neg (by rw [outside]; exact Bool.false_ne_true), ← writtenFor]

/-- What is written depends on where the needles first occur and on nothing else. -/
theorem writtenFor_congr {text other : Text}
    (same : ∀ entry ∈ entries, firstAt? entry.1 text = firstAt? entry.1 other) (position : Nat)
    (char : Char) :
    writtenFor entries text position char = writtenFor entries other position char := by
  induction entries with
  | nil => rfl
  | cons entry later ih =>
      obtain ⟨here, behind⟩ := List.forall_mem_cons.mp same
      have alike := isWithinFirst_congr here position
      cases within : isWithinFirst entry.1 other position with
      | true =>
          rw [writtenFor_cons_of_within (alike.trans within), writtenFor_cons_of_within within,
            here]
      | false =>
          rw [writtenFor_cons_of_outside (alike.trans within), writtenFor_cons_of_outside within,
            ih behind]

theorem flatMap_writtenFor_of_outside {needle text other : Text} (replacement : Text)
    (same : ∀ entry ∈ entries, firstAt? entry.1 text = firstAt? entry.1 other) (stretch : Text)
    (start : Nat)
    (outside : ∀ position, start ≤ position → position < start + stretch.length →
      isWithinFirst needle text position = false) :
    ((stretch.zipIdx start).flatMap fun pair =>
        writtenFor ((needle, replacement) :: entries) text pair.2 pair.1) =
      (stretch.zipIdx start).flatMap fun pair => writtenFor entries other pair.2 pair.1 := by
  refine List.flatMap_congr fun pair member => ?_
  obtain ⟨low, high, _⟩ := List.mem_zipIdx member
  rw [writtenFor_cons_of_outside (outside pair.2 low high), writtenFor_congr same]

theorem flatMap_writtenFor_needle (entries : List (Text × Text)) {needle text : Text}
    (replacement : Text) (nonempty : needle ≠ []) {start : Nat}
    (found : firstAt? needle text = some start) :
    ((needle.zipIdx start).flatMap fun pair =>
        writtenFor ((needle, replacement) :: entries) text pair.2 pair.1) = replacement := by
  have within : ∀ position, start ≤ position → position < start + needle.length →
      isWithinFirst needle text position = true := by
    intro position low high
    simp only [isWithinFirst, found, Bool.and_eq_true, decide_eq_true_eq]
    exact ⟨low, high⟩
  obtain ⟨char, later, rfl⟩ := List.exists_cons_of_ne_nil nonempty
  have first : writtenFor ((char :: later, replacement) :: entries) text start char =
      replacement := by
    rw [writtenFor_cons_of_within (within start (Nat.le_refl start) (by simp)), if_pos found]
  have others : ((later.zipIdx (start + 1)).flatMap fun pair =>
      writtenFor ((char :: later, replacement) :: entries) text pair.2 pair.1) = [] := by
    refine List.flatMap_eq_nil_iff.mpr fun pair member => ?_
    obtain ⟨low, high, _⟩ := List.mem_zipIdx member
    have inside := within pair.2 (by omega) (by rw [List.length_cons]; omega)
    have behind : firstAt? (char :: later) text ≠ some pair.2 := by
      rw [found, ne_eq, Option.some.injEq]
      omega
    rw [writtenFor_cons_of_within inside, if_neg behind]
  rw [List.zipIdx_cons, List.flatMap_cons, others, List.append_nil]
  exact first

theorem flatMap_writtenFor_clean (before rest : Text) {stretch : Text}
    (clean : ∀ entry ∈ entries, List.Disjoint stretch entry.1) :
    ((stretch.zipIdx before.length).flatMap fun pair =>
        writtenFor entries (before ++ stretch ++ rest) pair.2 pair.1) = stretch := by
  have kept : ∀ pair ∈ stretch.zipIdx before.length,
      writtenFor entries (before ++ stretch ++ rest) pair.2 pair.1 = [pair.1] := by
    intro pair member
    obtain ⟨low, high, holds⟩ := List.mem_zipIdx member
    apply writtenFor_of_outside
    intro entry known
    by_contra within
    obtain ⟨char, inNeedle, here⟩ :=
      exists_getElem?_of_isWithinFirst (Bool.not_eq_false _ ▸ within)
    rw [List.append_assoc, List.getElem?_append_right low,
      List.getElem?_append_left (by omega)] at here
    exact clean entry known (List.mem_of_getElem? here) inNeedle
  rw [List.flatMap_congr kept, ← List.map_eq_flatMap, List.zipIdx_map_fst]

/-- Replacing one needle and then the others at once is replacing all of them at
once. -/
theorem replaceAtOnce_cons {needle replacement : Text}
    (independent : Independent ((needle, replacement) :: entries)) (text : Text) :
    replaceAtOnce entries (replaceFirst needle replacement text) =
      replaceAtOnce ((needle, replacement) :: entries) text := by
  obtain ⟨fits, apart, clean⟩ := independent
  obtain ⟨⟨nonempty, same⟩, fitsLater⟩ := List.forall_mem_cons.mp fits
  obtain ⟨goes, _⟩ := List.pairwise_cons.mp apart
  have comes : ∀ entry ∈ entries, List.Disjoint replacement entry.1 := fun entry member =>
    clean _ List.mem_cons_self entry (List.mem_cons_of_mem _ member)
  have unmoved : ∀ entry ∈ entries,
      firstAt? entry.1 text = firstAt? entry.1 (replaceFirst needle replacement text) :=
    fun entry member => (firstAt?_replaceFirst nonempty (fitsLater entry member).1 same
      (goes entry member) (comes entry member) text).symm
  rcases replaceFirst_cases needle replacement text with
    ⟨nowhere, unchanged⟩ | ⟨before, rest, found, whole, replaced⟩
  · rw [unchanged, replaceAtOnce, replaceAtOnce]
    symm
    refine flatMap_writtenFor_of_outside replacement (fun _ _ => rfl) text 0 fun position _ _ => ?_
    rw [isWithinFirst, nowhere]
  · have outside : ∀ position, position < before.length ∨ before.length + needle.length ≤ position →
        isWithinFirst needle text position = false := by
      intro position elsewhere
      simp only [isWithinFirst, found, Bool.and_eq_false_iff, decide_eq_false_iff_not]
      omega
    have front := flatMap_writtenFor_of_outside replacement unmoved before 0
      fun position _ high => outside position (.inl (by omega))
    have behind := flatMap_writtenFor_of_outside replacement unmoved rest
      (before.length + needle.length) fun position low _ => outside position (.inr low)
    have middle := flatMap_writtenFor_needle entries replacement nonempty found
    have kept := flatMap_writtenFor_clean before rest comes
    rw [← replaced] at kept
    simp only [replaceAtOnce]
    generalize (fun pair : Char × Nat =>
      writtenFor ((needle, replacement) :: entries) text pair.2 pair.1) = here
      at front behind middle ⊢
    generalize (fun pair : Char × Nat =>
      writtenFor entries (replaceFirst needle replacement text) pair.2 pair.1) = there
      at front behind kept ⊢
    rw [replaced, whole]
    simp only [List.zipIdx_append, List.flatMap_append, Nat.zero_add, List.length_append, same,
      front, middle, kept, behind]

end AtOnce

namespace Independent

variable {entries order : List (Text × Text)}

theorem tail {entry : Text × Text} (independent : Independent (entry :: entries)) :
    Independent entries where
  fits other member := independent.fits other (List.mem_cons_of_mem _ member)
  apart := (List.pairwise_cons.mp independent.apart).2
  clean other member another known :=
    independent.clean other (List.mem_cons_of_mem _ member) another (List.mem_cons_of_mem _ known)

theorem perm (independent : Independent entries) (reordered : order.Perm entries) :
    Independent order where
  fits entry member := independent.fits entry (reordered.mem_iff.mp member)
  apart := (reordered.pairwise_iff List.disjoint_symm).mpr independent.apart
  clean entry member other known :=
    independent.clean entry (reordered.mem_iff.mp member) other (reordered.mem_iff.mp known)

theorem disjoint (independent : Independent entries) {first second : Text × Text}
    (isFirst : first ∈ entries) (isSecond : second ∈ entries) (differ : first ≠ second) :
    List.Disjoint first.1 second.1 := by
  have symmetric : Std.Symm fun first second : Text × Text => List.Disjoint first.1 second.1 :=
    ⟨fun _ _ => List.disjoint_symm⟩
  exact independent.apart.forall isFirst isSecond differ

theorem eq_of_within (independent : Independent entries) {text : Text} {position : Nat}
    {first second : Text × Text} (isFirst : first ∈ entries) (isSecond : second ∈ entries)
    (inFirst : isWithinFirst first.1 text position = true)
    (inSecond : isWithinFirst second.1 text position = true) : first = second := by
  by_contra differ
  obtain ⟨char, member, here⟩ := exists_getElem?_of_isWithinFirst inFirst
  obtain ⟨other, known, there⟩ := exists_getElem?_of_isWithinFirst inSecond
  rw [here, Option.some.injEq] at there
  exact independent.disjoint isFirst isSecond differ member (there ▸ known)

theorem firstAt?_replaceFirst (independent : Independent entries) {entry other : Text × Text}
    (member : entry ∈ entries) (known : other ∈ entries) (differ : entry ≠ other) (text : Text) :
    firstAt? other.1 (replaceFirst entry.1 entry.2 text) = firstAt? other.1 text :=
  Text.firstAt?_replaceFirst (independent.fits entry member).1 (independent.fits other known).1
    (independent.fits entry member).2 (independent.disjoint member known differ)
    (independent.clean entry member other known) text

theorem replaceInTurn_eq (independent : Independent entries) (text : Text) :
    replaceInTurn entries text = replaceAtOnce entries text := by
  induction entries generalizing text with
  | nil =>
      have kept : replaceAtOnce [] text = text := by
        show (text.zipIdx.flatMap fun pair => [pair.1]) = text
        rw [← List.map_eq_flatMap, List.zipIdx_map_fst]
      exact kept.symm
  | cons entry later ih =>
      rw [← replaceAtOnce_cons independent, ← ih independent.tail]
      rfl

/-- The order in which independent needles are replaced is of no importance. -/
theorem replaceInTurn_perm (independent : Independent entries) (reordered : order.Perm entries)
    (text : Text) : replaceInTurn order text = replaceInTurn entries text := by
  rw [(independent.perm reordered).replaceInTurn_eq, independent.replaceInTurn_eq, replaceAtOnce,
    replaceAtOnce]
  refine List.flatMap_congr fun pair _ => ?_
  have found := find?_perm (fun entry => isWithinFirst entry.1 text pair.2) reordered
    fun first isFirst second isSecond => independent.eq_of_within isFirst isSecond
  rw [writtenFor, found, ← writtenFor]

theorem length_replaceInTurn (independent : Independent entries) (text : Text) :
    (replaceInTurn entries text).length = text.length := by
  induction entries generalizing text with
  | nil => rfl
  | cons entry later ih =>
      exact (ih independent.tail _).trans
        (length_replaceFirst (independent.fits entry List.mem_cons_self).2 text)

/-- A character outside all first occurrences keeps its place. -/
theorem getElem?_replaceInTurn (independent : Independent entries) {text : Text} {position : Nat}
    (outside : ∀ entry ∈ entries, isWithinFirst entry.1 text position = false) :
    (replaceInTurn entries text)[position]? = text[position]? := by
  induction entries generalizing text with
  | nil => rfl
  | cons entry later ih =>
      obtain ⟨here, behind⟩ := List.forall_mem_cons.mp outside
      have fits := independent.fits entry List.mem_cons_self
      have disjoint := (List.pairwise_cons.mp independent.apart).1
      have unmoved : ∀ other ∈ later,
          isWithinFirst other.1 (replaceFirst entry.1 entry.2 text) position = false := by
        intro other member
        have same := Text.firstAt?_replaceFirst fits.1
          (independent.fits other (List.mem_cons_of_mem _ member)).1 fits.2 (disjoint other member)
          (independent.clean entry List.mem_cons_self other (List.mem_cons_of_mem _ member)) text
        rw [isWithinFirst_congr same]
        exact behind other member
      exact (ih independent.tail unmoved).trans (getElem?_replaceFirst fits.2 here)

end Independent

end Stencil.Text
