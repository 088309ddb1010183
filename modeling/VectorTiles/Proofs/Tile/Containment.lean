import VectorTiles.Proofs.Sql.Group
import VectorTiles.Proofs.Tile.Compilation
import Mathlib.Data.List.Forall2

/-!
# Containment of sources

Names and sources are written by whoever declares a tileset. Whatever they hold, they stay where
the template of a fragment puts them.

**Rules.** A fragment is a group. Its text is cut into parts that are each scanned alone: behind
the name stands a comma, and behind the source a parenthesis. The joined fragments are groups in a
row.

**Results.**

* `IsEmbeddable.isGroup`: a fragment is a group, and its source is matched within it.
* `isContained_of_compile`: every compiled statement keeps its sources apart.
-/

namespace VectorTiles
namespace Tile

open Sql

section Template

/-- What stands in a fragment in front of its source, up to the parenthesis that opens it. -/
def sourceFront (name : List Char) : List Char :=
  beforeName ++ name ++ beforeEnvelope ++ envelopePlaceholders ++ beforeSource

/-- What stands in a fragment behind its source, from the parenthesis that closes it. -/
def sourceBack : List Char :=
  beforeFilter ++ envelopePlaceholders ++ fragmentEnd

/-- The template between the first parenthesis and the name. -/
def nameFront : List Char := beforeName.tail

/-- The template between the comma behind the name and the parenthesis in front of the source. -/
def nameBack : List Char :=
  beforeEnvelope.tail ++ envelopePlaceholders ++ beforeSource.dropLast

/-- What stands in a fragment between its first parenthesis and the one in front of the source. -/
def groupFront (name : List Char) : List Char :=
  nameFront ++ (name ++ ',' :: nameBack)

/-- The template between the parenthesis behind the source and the last parenthesis. -/
def groupBack : List Char :=
  beforeFilter.tail ++ envelopePlaceholders ++ fragmentEnd.dropLast

theorem fragmentText_eq_append (name source : List Char) :
    fragmentText name source envelopePlaceholders = sourceFront name ++ (source ++ sourceBack) := by
  simp [fragmentText, sourceFront, sourceBack]

theorem sourceFront_eq (name : List Char) :
    sourceFront name = '(' :: (groupFront name ++ ['(']) := by
  have hname : beforeName = '(' :: nameFront := by decide
  have henvelope : beforeEnvelope = ',' :: beforeEnvelope.tail := by decide
  have hsource : beforeSource = beforeSource.dropLast ++ ['('] := by decide
  rw [sourceFront, groupFront, nameBack, hname, henvelope, hsource]
  simp

theorem sourceBack_eq : sourceBack = ')' :: (groupBack ++ [')']) := by
  have hfilter : beforeFilter = ')' :: beforeFilter.tail := by decide
  have hend : fragmentEnd = fragmentEnd.dropLast ++ [')'] := by decide
  rw [sourceBack, groupBack, hfilter, hend]
  simp

/-- A fragment is cut at the parentheses around its source. -/
theorem fragmentText_eq_parts (name source : List Char) :
    fragmentText name source envelopePlaceholders =
      ('(' :: groupFront name) ++ (('(' :: source) ++ sourceBack) := by
  rw [fragmentText_eq_append, sourceFront_eq]
  simp

theorem length_fragmentText (name source : List Char) :
    (fragmentText name source envelopePlaceholders).length =
      1 + (groupFront name).length + 1 + source.length + 1 + groupBack.length + 1 := by
  rw [fragmentText_eq_parts, sourceBack_eq]
  simp
  omega

theorem standalone_nameFront : Standalone nameFront := by
  have hcomplete : (Scan.ofText nameFront.dropLast).IsComplete := by decide +kernel
  have hlast : nameFront = nameFront.dropLast ++ [' '] := by decide
  rw [hlast]
  exact Standalone.of_isComplete hcomplete (by decide)

theorem standalone_nameBack : Standalone nameBack := by
  have hcomplete : (Scan.ofText nameBack.dropLast).IsComplete := by decide +kernel
  have hlast : nameBack = nameBack.dropLast ++ [' '] := by decide +kernel
  rw [hlast]
  exact Standalone.of_isComplete hcomplete (by decide)

theorem isComplete_groupBack : (Scan.ofText groupBack).IsComplete := by
  decide +kernel

theorem leads_nameFront : Leads 0 (plainText nameFront) 1 := by
  decide +kernel

theorem leads_nameBack : Leads 1 (plainText nameBack) 2 := by
  decide +kernel

theorem leads_groupBack : Leads 2 (plainText groupBack) 0 := by
  decide +kernel

end Template

section Fragments

variable {name source body : List Char} {quote : Char}

/-- A name is one quoted text and a source is nested; both are complete where they stand. -/
structure IsEmbeddable (name source : List Char) : Prop where
  name_eq : ∃ body, Scan.ofText name = ⟨[.quoted '\'' body], none⟩
  complete : (Scan.ofText source).IsComplete
  nested : IsNested source

theorem isEmbeddable_served {entry : Layer × Query}
    (h : checkSource entry.2.sql.toList = .ok ()) :
    IsEmbeddable (embeddedName entry) (servedSource entry) where
  name_eq := ⟨_, ofText_quotedName _⟩
  complete := (isNested_embeddedSource h).2
  nested := (isNested_embeddedSource h).1

variable (h : IsEmbeddable name source)
include h

theorem IsEmbeddable.isComplete_name : (Scan.ofText name).IsComplete := by
  obtain ⟨body, hname⟩ := h.name_eq
  rw [hname]
  exact ⟨rfl, by simp [Lexeme.isEnded]⟩

/-- No character of a name is plain. -/
theorem IsEmbeddable.plainFrom_name (offset : Nat) : plainFrom offset name = [] := by
  obtain ⟨body, hname⟩ := h.name_eq
  rw [plainFrom, hname]
  rfl

theorem IsEmbeddable.standalone_groupFront : Standalone (groupFront name) := by
  have hname : Standalone (name ++ [',']) :=
    Standalone.of_isComplete h.isComplete_name (by decide)
  simpa [groupFront] using (standalone_nameFront.append hname).append standalone_nameBack

/-- The name adds no parentheses to those of the template. -/
theorem IsEmbeddable.leads_groupFront (offset : Nat) :
    Leads 0 ((plainFrom offset (groupFront name)).map (·.2)) 2 := by
  have hcomma : Leads 1 [','] 1 := by decide
  rw [groupFront, plainFrom_append standalone_nameFront,
    plainFrom_append_inert h.isComplete_name (by decide), h.plainFrom_name, List.map_append,
    List.map_append, List.map_cons, map_snd_plainFrom, map_snd_plainFrom]
  exact leads_nameFront.append (hcomma.append leads_nameBack)

theorem IsEmbeddable.standalone_fragment :
    Standalone (fragmentText name source envelopePlaceholders) := by
  have hopen : Standalone ['('] := Standalone.singleton (by decide)
  have hfront : Standalone (sourceFront name) := by
    rw [sourceFront_eq]
    exact (hopen.append h.standalone_groupFront).append hopen
  have hsource : Standalone (source ++ [')']) := Standalone.of_isComplete h.complete (by decide)
  have hback : Standalone (groupBack ++ [')']) :=
    Standalone.of_isComplete isComplete_groupBack (by decide)
  rw [fragmentText_eq_append, sourceBack_eq]
  simpa using (hfront.append hsource).append hback

/-- The plain characters of a fragment that stands at an offset. -/
theorem IsEmbeddable.plainFrom_fragment (offset : Nat) :
    ∃ opening closing last, opening = offset + 1 + (groupFront name).length ∧
      closing = opening + 1 + source.length ∧ last = closing + 1 + groupBack.length ∧
      plainFrom offset (fragmentText name source envelopePlaceholders) =
        (offset, '(') :: (plainFrom (offset + 1) (groupFront name) ++
          ((opening, '(') :: plainFrom (opening + 1) source ++ [(closing, ')')]) ++
            plainFrom (closing + 1) groupBack) ++ [(last, ')')] := by
  have hopen : isInert '(' = true := by decide
  have hclose : isInert ')' = true := by decide
  have hparts : fragmentText name source envelopePlaceholders =
      '(' :: (groupFront name ++ '(' :: (source ++ ')' :: (groupBack ++ [')']))) := by
    rw [fragmentText_eq_parts, sourceBack_eq]
    simp
  refine ⟨_, _, _, rfl, rfl, rfl, ?_⟩
  rw [hparts, plainFrom_cons hopen, plainFrom_append h.standalone_groupFront,
    plainFrom_cons hopen, plainFrom_append_inert h.complete hclose,
    plainFrom_append_inert isComplete_groupBack hclose, plainFrom_nil]
  simp

/-- The parentheses around the source are matched within it. -/
theorem IsEmbeddable.leads_source (offset : Nat) :
    Leads 0 ((plainFrom offset source).map (·.2)) 0 := by
  rw [map_snd_plainFrom]
  exact h.nested.2

/-- **A fragment is a group.** -/
theorem IsEmbeddable.isGroup : IsGroup (fragmentText name source envelopePlaceholders) where
  standalone := h.standalone_fragment
  plain_eq := fun offset => by
    obtain ⟨opening, closing, last, hopening, hclosing, hlast, hplain⟩ :=
      h.plainFrom_fragment offset
    have hlength := length_fragmentText name source
    refine ⟨_, last, by omega, hplain, ?_⟩
    -- The source stands two parentheses deep inside of the group.
    have hsource : Leads 2 ('(' :: (plainFrom (opening + 1) source).map (·.2) ++ [')']) 2 :=
      (h.leads_source (opening + 1)).group.add 2
    have hback : Leads 2 ((plainFrom (closing + 1) groupBack).map (·.2)) 0 := by
      rw [map_snd_plainFrom]
      exact leads_groupBack
    have hall := ((h.leads_groupFront (offset + 1)).append hsource).append hback
    simpa using hall

end Fragments

section Enclosure

/-- A group of a statement is the fragment of a served layer. The parentheses that the template
puts around the source belong to each other. -/
structure Encloses (sql : List Char) (entry : Layer × Query) (group : Nat × Nat) : Prop where
  fragment_eq : slice sql group = servedFragment entry
  source_eq : ∃ opening closing,
    slice sql (group.1, opening) = sourceFront (embeddedName entry) ∧
      slice sql (opening, closing) = '(' :: servedSource entry ++ [')'] ∧
      slice sql (closing, group.2) = sourceBack ∧
      IsMatch (plainChars sql) opening closing

variable {sql rest : List Char} {entry : Layer × Query} {offset last : Nat}

theorem encloses_of_standsAt (hchecked : checkSource entry.2.sql.toList = .ok ())
    (hstands : StandsAt sql offset (servedFragment entry ++ rest))
    (hlast : last + 1 = offset + (servedFragment entry).length) :
    Encloses sql entry (offset, last) := by
  have h := isEmbeddable_served hchecked
  obtain ⟨opening, closing, behind, hopening, hclosing, -, hplain⟩ := h.plainFrom_fragment offset
  have hlength := length_fragmentText (embeddedName entry) (servedSource entry)
  rw [← servedFragment] at hplain hlength
  -- From the offset of the fragment on, the parts of the text are cut off one after another.
  have hparts : sql.drop offset = ('(' :: groupFront (embeddedName entry)) ++
      (('(' :: servedSource entry) ++ (sourceBack ++ rest)) := by
    rw [hstands.drop_eq, servedFragment, fragmentText_eq_parts]
    simp
  have hopen : sql.drop opening = ('(' :: servedSource entry) ++ (sourceBack ++ rest) := by
    have hdrop := drop_add_of_eq_append hparts
    rwa [List.length_cons, Nat.add_comm _ 1, ← Nat.add_assoc, ← hopening] at hdrop
  have hclose : sql.drop closing = sourceBack ++ rest := by
    have hdrop := drop_add_of_eq_append hopen
    rwa [List.length_cons, Nat.add_comm _ 1, ← Nat.add_assoc, ← hclosing] at hdrop
  refine ⟨slice_eq_of_drop hstands.drop_eq hlast, opening, closing, ?_, ?_, ?_, ?_⟩
  · have hfront : sql.drop offset =
        sourceFront (embeddedName entry) ++ (servedSource entry ++ (sourceBack ++ rest)) := by
      rw [hparts, sourceFront_eq]
      simp
    refine slice_eq_of_drop hfront ?_
    rw [hopening, sourceFront_eq]
    simp
    omega
  · have hsource : sql.drop opening =
        ('(' :: servedSource entry ++ [')']) ++ (groupBack ++ [')'] ++ rest) := by
      rw [hopen, sourceBack_eq]
      simp
    refine slice_eq_of_drop hsource ?_
    rw [hclosing]
    simp
    omega
  · refine slice_eq_of_drop hclose ?_
    rw [sourceBack_eq]
    simp
    omega
  · obtain ⟨before, hbefore⟩ := hstands.plain_eq
    refine ⟨before ++ (offset, '(') :: plainFrom (offset + 1) (groupFront (embeddedName entry)),
      plainFrom (opening + 1) (servedSource entry), plainFrom (closing + 1) groupBack ++
        (behind, ')') :: plainFrom (offset + (servedFragment entry).length) rest, ?_,
      (h.leads_source (opening + 1)).2⟩
    have hstandalone : Standalone (servedFragment entry) := h.standalone_fragment
    rw [hbefore, plainFrom_append hstandalone, hplain]
    simp

end Enclosure

section Joining

/-- What a statement is joined of. -/
def segments : List (List Char) → List (List Char × List Char)
  | [] => []
  | fragment :: fragments =>
    ("SELECT ".toList, fragment) :: fragments.map (" || ".toList, ·)

theorem intercalate_append (separator back text : List Char) (texts : List (List Char)) :
    List.intercalate separator (text :: texts) ++ back =
      text ++ interleaved back (texts.map (separator, ·)) := by
  induction texts generalizing text with
  | nil => simp [interleaved]
  | cons next texts ih => simp [interleaved, ih]

theorem joined_eq_interleaved {fragments : List (List Char)} (hne : fragments ≠ []) :
    Statement.joined fragments = interleaved " AS mvtTile".toList (segments fragments) := by
  cases fragments with
  | nil => exact absurd rfl hne
  | cons fragment fragments =>
      exact (List.append_assoc _ _ _).trans (congrArg _ (intercalate_append _ _ _ _))

theorem segments_eq_map (fragments : List (List Char)) (text : List Char) :
    segments (fragments.map fun _ => text) =
      (segments fragments).map fun segment => (segment.1, text) := by
  cases fragments with
  | nil => rfl
  | cons fragment fragments => simp [segments, Function.comp_def]

theorem map_snd_segments (fragments : List (List Char)) :
    (segments fragments).map (·.2) = fragments := by
  cases fragments with
  | nil => rfl
  | cons fragment fragments => simp [segments, Function.comp_def]

theorem standalone_select : Standalone "SELECT ".toList := by
  have hcomplete : (Scan.ofText "SELECT".toList).IsComplete := by decide +kernel
  exact Standalone.of_isComplete hcomplete (by decide)

theorem isFlat_select : IsFlat "SELECT ".toList :=
  ⟨by decide +kernel, by decide +kernel, by simp⟩

theorem standalone_separator : Standalone " || ".toList := by
  have hcomplete : (Scan.ofText " ||".toList).IsComplete := by decide +kernel
  exact Standalone.of_isComplete hcomplete (by decide)

theorem isFlat_separator : IsFlat " || ".toList :=
  ⟨by decide +kernel, by decide +kernel, by simp⟩

theorem isFlat_back : IsFlat " AS mvtTile".toList :=
  ⟨by decide +kernel, by decide +kernel, by simp⟩

theorem isSegment_of_mem_segments {fragments : List (List Char)}
    (h : ∀ fragment ∈ fragments, IsGroup fragment) :
    ∀ segment ∈ segments fragments, IsSegment segment := by
  cases fragments with
  | nil => simp [segments]
  | cons fragment fragments =>
      obtain ⟨hfirst, hrest⟩ := List.forall_mem_cons.mp h
      rw [segments, List.forall_mem_cons, List.forall_mem_map]
      exact ⟨⟨standalone_select, isFlat_select, hfirst⟩,
        fun text htext => ⟨standalone_separator, isFlat_separator, hrest text htext⟩⟩

end Joining

section Containment

/-- A statement in which every source is kept within its fragment. -/
structure IsContained (sql : List Char) (entries : List (Layer × Query)) : Prop where
  nested : IsNested sql
  outermost_eq : outermost 0 (plainText sql) = Statement.joined (entries.map fun _ => ['(', ')'])
  enclosed : List.Forall₂ (Encloses sql) entries (groups 0 0 (plainChars sql))

theorem isContained_joined {entries : List (Layer × Query)} (hne : entries ≠ [])
    (hchecked : ∀ entry ∈ entries, checkSource entry.2.sql.toList = .ok ()) :
    IsContained (Statement.joined (entries.map servedFragment)) entries := by
  have hgroups : ∀ fragment ∈ entries.map servedFragment, IsGroup fragment :=
    List.forall_mem_map.mpr fun entry hentry =>
      (isEmbeddable_served (hchecked entry hentry)).isGroup
  have hsegments := isSegment_of_mem_segments hgroups
  have hne' : entries.map servedFragment ≠ [] := by simpa using hne
  have hjoined := joined_eq_interleaved hne'
  refine ⟨?_, ?_, ?_⟩
  · rw [hjoined]
    exact isNested_interleaved isFlat_back hsegments
  · have houter := outermost_interleaved isFlat_back hsegments
    rw [← segments_eq_map, ← hjoined, ← joined_eq_interleaved (by simpa using hne), List.map_map]
      at houter
    exact houter
  · have hoccupies := forall₂_occupies_interleaved isFlat_back hsegments
      (hjoined ▸ StandsAt.self (Statement.joined (entries.map servedFragment)))
    rw [map_snd_segments, List.forall₂_map_left_iff, ← hjoined] at hoccupies
    have hboth := (List.forall₂_and_left _ _).mpr ⟨hchecked, hoccupies⟩
    refine hboth.imp ?_
    rintro entry ⟨offset, last⟩ ⟨hentry, hlast, rest, hstands⟩
    exact encloses_of_standsAt hentry hstands hlast

/-- **Sources stay where the template puts them.** In the statement of any tileset no region is left
open and no semicolon is plain, parentheses match, what is outermost is the joined groups, and the
groups are the fragments of the served layers in their order, each with its source between two
parentheses that belong to each other. -/
theorem isContained_of_compile {tileset : Tileset} {zoom : Int} {statement : Statement}
    (h : (compile tileset zoom).1 = .ok statement) (hne : statement.isEmpty = false) :
    statement.layers = (served tileset zoom).map (·.1.name) ∧
      IsContained statement.sql.toList (served tileset zoom) := by
  have hcompiled := compile_eq_ok h
  have hserved : served tileset zoom ≠ [] := by
    rintro hnil
    simp [Statement.isEmpty, hcompiled.layers_eq, hnil] at hne
  refine ⟨hcompiled.layers_eq, ?_⟩
  rw [hcompiled.sql_eq, statementText_of_ne_nil (by simpa using hserved)]
  exact isContained_joined hserved hcompiled.checked

theorem isContained_annotatedStatement :
    annotatedStatement.layers = ["it's 100%s", "$a$ --"] ∧
      IsContained annotatedStatement.sql.toList (served annotatedTileset 5) := by
  obtain ⟨hlayers, hcontained⟩ :=
    isContained_of_compile compile_annotatedTileset (by decide)
  exact ⟨hlayers.trans (by decide), hcontained⟩

end Containment

end Tile
end VectorTiles
