import LogDigest.Blob
import LogDigest.Proofs.Text.Occurrence
import Mathlib.Data.List.Pairwise

/-!
# Tags

The tags that the markup of a blob may have, and how they and the texts between them are read back.
No tag begins with another one, and each is led by a character that stands nowhere else in it, so
that a text has one reading.
-/

namespace LogDigest.Blob

inductive TagName where
  | div
  | span
  | pre
  deriving DecidableEq

def Element.name : Element → TagName
  | .summary | .templateRow | .row | .details => .div
  | .key | .value | .toggle => .span
  | .document => .pre

inductive Tag where
  | opening (kind : Element)
  | errorOpening
  | closing (name : TagName)
  deriving DecidableEq

namespace Tag

def text : Tag → List Char
  | .opening kind => kind.openTag.toList
  | .errorOpening => Template.errorOpen.toList
  | .closing .div => "</div>".toList
  | .closing .span => "</span>".toList
  | .closing .pre => "</pre>".toList

def all : List Tag :=
  [.opening .summary, .opening .templateRow, .opening .row, .opening .key, .opening .value,
    .opening .details, .opening .toggle, .opening .document, .errorOpening, .closing .div,
    .closing .span, .closing .pre]

def opens? : Tag → Option TagName
  | .opening kind => some kind.name
  | .errorOpening => some .span
  | .closing _ => none

theorem mem_all (tag : Tag) : tag ∈ all := by
  cases tag with
  | opening kind => cases kind <;> decide
  | errorOpening => decide
  | closing name => cases name <;> decide

theorem ledBy_text (tag : Tag) : Text.LedBy '<' tag.text := by
  cases tag with
  | opening kind => cases kind <;> exact ⟨_, String.toList_ofList, by decide⟩
  | errorOpening => exact ⟨_, String.toList_ofList, by decide⟩
  | closing name => cases name <;> exact ⟨_, String.toList_ofList, by decide⟩

theorem map_text_cons {tag : Tag} {tags : List Tag} {s : List Char} {texts : List (List Char)}
    (h : tag.text = s) (hs : tags.map text = texts) : (tag :: tags).map text = s :: texts := by
  rw [List.map_cons, h, hs]

theorem pairwise_text :
    all.Pairwise fun tag other => ¬ tag.text <+: other.text ∧ ¬ other.text <+: tag.text := by
  -- The texts are spelled out once, so that deciding does not read each of them again and again.
  obtain ⟨texts, htexts, hpairwise⟩ : ∃ texts, all.map text = texts ∧
      texts.Pairwise fun s t => ¬ s <+: t ∧ ¬ t <+: s := by
    apply Exists.intro
    apply And.intro
    · iterate 12
        apply map_text_cons
        · exact String.toList_ofList
      rfl
    · decide
  rwa [← htexts, List.pairwise_map] at hpairwise

theorem eq_of_text_prefix {tag other : Tag} (h : tag.text <+: other.text) : tag = other := by
  have hsymm : Std.Symm fun tag other : Tag =>
      ¬ tag.text <+: other.text ∧ ¬ other.text <+: tag.text := ⟨fun _ _ => And.symm⟩
  by_contra hne
  exact (pairwise_text.forall tag.mem_all other.mem_all hne).1 h

theorem text_closing (kind : Element) :
    (closing kind.name).text = kind.closeTag.toList := by
  cases kind <;> rfl

end Tag

/-- The tag that a text begins with. -/
def tagAt? (s : List Char) : Option Tag :=
  Tag.all.find? fun tag => tag.text <+: s

theorem tagAt?_cons_of_ne {c : Char} (h : c ≠ '<') (rest : List Char) :
    tagAt? (c :: rest) = none := by
  rw [tagAt?, List.find?_eq_none]
  intro tag _
  simpa using Text.not_prefix_cons tag.ledBy_text h rest

theorem tagAt?_text_append (tag : Tag) (rest : List Char) :
    tagAt? (tag.text ++ rest) = some tag := by
  cases hfound : tagAt? (tag.text ++ rest) with
  | none =>
    rw [tagAt?, List.find?_eq_none] at hfound
    have hnot := hfound tag tag.mem_all
    rw [decide_eq_true_eq] at hnot
    exact absurd (List.prefix_append _ _) hnot
  | some other =>
    have hprefix : other.text <+: tag.text ++ rest := by simpa using List.find?_some hfound
    rcases List.prefix_or_prefix_of_prefix hprefix (List.prefix_append _ _) with h | h
    · rw [Tag.eq_of_text_prefix h]
    · rw [Tag.eq_of_text_prefix h]

/-! ## Reading along a text -/

section

variable {α : Type} {f : List Char → Option α} {first : Char} {s : List Char}

/-- What is found at the places of a text, in their order. -/
def collect (f : List Char → Option α) : List Char → List α
  | [] => []
  | c :: rest => (f (c :: rest)).toList ++ collect f rest

/-- A part of a text in which the same is found, whatever follows the part. -/
def Collects (f : List Char → Option α) (s : List Char) (found : List α) : Prop :=
  ∀ rest, collect f (s ++ rest) = found ++ collect f rest

def FoundAt (first : Char) (f : List Char → Option α) : Prop :=
  ∀ c rest, c ≠ first → f (c :: rest) = none

theorem Collects.append {t : List Char} {found more : List α} (hs : Collects f s found)
    (ht : Collects f t more) : Collects f (s ++ t) (found ++ more) := by
  intro rest
  rw [List.append_assoc, List.append_assoc, hs, ht]

theorem Collects.collect_eq {found : List α} (h : Collects f s found) : collect f s = found := by
  have hnil := h []
  rwa [List.append_nil, collect, List.append_nil] at hnil

theorem collects_of_not_mem (hf : FoundAt first f) (h : first ∉ s) : Collects f s [] := by
  intro rest
  induction s with
  | nil => rfl
  | cons c s ih =>
    rw [List.mem_cons, not_or] at h
    rw [List.cons_append, collect, hf c _ (Ne.symm h.1), ih h.2]
    rfl

theorem collect_ledBy_append (hf : FoundAt first f) (hs : Text.LedBy first s) (rest : List Char) :
    collect f (s ++ rest) = (f (s ++ rest)).toList ++ collect f rest := by
  obtain ⟨body, rfl, hbody⟩ := hs
  rw [List.cons_append, collect, collects_of_not_mem hf hbody rest]
  rfl

end

def tagsOf (s : List Char) : List Tag :=
  collect tagAt? s

/-- What stands between an element's opening tag and the next tag, decoded, if a text begins with
that opening tag. -/
def textAfter? (kind : Element) (s : List Char) : Option (List Char) :=
  if tagAt? s = some (.opening kind) then
    some (Markup.decode ((s.drop kind.openTag.toList.length).takeWhile (· != '<')))
  else none

/-- The texts in the elements of a kind. -/
def textsIn (kind : Element) (s : List Char) : List (List Char) :=
  collect (textAfter? kind) s

theorem foundAt_tagAt? : FoundAt '<' tagAt? :=
  fun _ rest h => tagAt?_cons_of_ne h rest

theorem foundAt_textAfter? (kind : Element) : FoundAt '<' (textAfter? kind) := by
  intro c rest h
  rw [textAfter?, tagAt?_cons_of_ne h]
  rfl

private theorem collects_tag (tag : Tag) : Collects tagAt? tag.text [tag] := by
  intro rest
  rw [collect_ledBy_append foundAt_tagAt? tag.ledBy_text, tagAt?_text_append]
  rfl

theorem collects_other_tag {kind : Element} {tag : Tag} (h : tag ≠ .opening kind) :
    Collects (textAfter? kind) tag.text [] := by
  intro rest
  rw [collect_ledBy_append (foundAt_textAfter? kind) tag.ledBy_text, textAfter?,
    tagAt?_text_append, if_neg (by simpa using h)]
  rfl

theorem collects_text (kind : Element) {s : List Char} (h : '<' ∉ s) :
    Collects (textAfter? kind) (kind.openTag.toList ++ s ++ kind.closeTag.toList)
      [Markup.decode s] := by
  intro rest
  have hclose : Collects (textAfter? kind) kind.closeTag.toList [] := by
    rw [← Tag.text_closing]
    exact collects_other_tag (by simp)
  have hstop : (s ++ (kind.closeTag.toList ++ rest)).takeWhile (· != '<') = s := by
    obtain ⟨body, hbody, -⟩ := (Tag.closing kind.name).ledBy_text
    rw [← Tag.text_closing, hbody]
    refine (List.takeWhile_append_of_pos ?_).trans ?_
    · intro c hc
      exact bne_iff_ne.mpr fun heq => h (heq ▸ hc)
    · simp
  have hopen := collect_ledBy_append (foundAt_textAfter? kind) (Tag.opening kind).ledBy_text
    (s ++ (kind.closeTag.toList ++ rest))
  rw [textAfter?, if_pos (tagAt?_text_append _ _)] at hopen
  have hdrop : ((Tag.opening kind).text ++ (s ++ (kind.closeTag.toList ++ rest))).drop
      kind.openTag.toList.length = s ++ (kind.closeTag.toList ++ rest) := List.drop_left
  rw [hdrop, hstop, collects_of_not_mem (foundAt_textAfter? kind) h, hclose rest] at hopen
  rw [List.append_assoc, List.append_assoc]
  exact hopen

/-! ## Texts made of tags -/

/-- A text of tags, with characters between them that open no tag. -/
inductive Spells : List Tag → List Char → Prop where
  | nil : Spells [] []
  | char {tags c s} (h : c ≠ '<') (rest : Spells tags s) : Spells tags (c :: s)
  | tag {tags s} (tag : Tag) (rest : Spells tags s) : Spells (tag :: tags) (tag.text ++ s)

/-- Wherever a tag may begin, one does. -/
def Tagged (s : List Char) : Prop :=
  ∀ rest, '<' :: rest <:+ s → ∃ tag : Tag, tag.text <+: '<' :: rest

/-- Tags that are closed in the order in which they are to be. -/
inductive Balanced : List Tag → Prop where
  | nil : Balanced []
  | element {tag name inner rest} (h : tag.opens? = some name) (hinner : Balanced inner)
    (hrest : Balanced rest) : Balanced (tag :: (inner ++ .closing name :: rest))

section

variable {tags more : List Tag} {s t : List Char}

theorem Spells.append (hs : Spells tags s) (ht : Spells more t) :
    Spells (tags ++ more) (s ++ t) := by
  induction hs with
  | nil => exact ht
  | char h rest ih => exact ih.char h
  | tag tag rest ih =>
    rw [List.append_assoc]
    exact ih.tag tag

theorem spells_of_not_mem (h : '<' ∉ s) : Spells [] s := by
  induction s with
  | nil => exact .nil
  | cons c s ih =>
    rw [List.mem_cons, not_or] at h
    exact (ih h.2).char (Ne.symm h.1)

theorem spells_tag (tag : Tag) : Spells [tag] tag.text := by
  have htag := Spells.nil.tag tag
  rwa [List.append_nil] at htag

theorem Spells.collects {α : Type} {f : List Char → Option α} {found : Tag → List α}
    (h : Spells tags s) (hf : FoundAt '<' f)
    (htag : ∀ tag ∈ tags, Collects f tag.text (found tag)) :
    Collects f s (tags.flatMap found) := by
  induction h with
  | nil => exact fun _ => rfl
  | @char tags c s hc rest ih =>
    have hsingle : '<' ∉ [c] := by simpa using hc.symm
    exact (collects_of_not_mem hf hsingle).append (ih htag)
  | tag tag rest ih =>
    rw [List.forall_mem_cons] at htag
    exact htag.1.append (ih htag.2)

theorem Spells.tagsOf_eq (h : Spells tags s) : tagsOf s = tags := by
  have hcollects := h.collects foundAt_tagAt? fun tag _ => collects_tag tag
  rw [tagsOf, hcollects.collect_eq]
  exact List.flatMap_singleton' tags

theorem Spells.collects_other {kind : Element} (h : Spells tags s) (hnot : .opening kind ∉ tags) :
    Collects (textAfter? kind) s [] := by
  have hcollects : Collects (textAfter? kind) s (tags.flatMap fun _ => []) :=
    h.collects (foundAt_textAfter? kind) fun tag hmem =>
      collects_other_tag fun heq => hnot (heq ▸ hmem)
  rwa [List.flatMap_eq_nil_iff.mpr fun _ _ => rfl] at hcollects

theorem Spells.tagged (h : Spells tags s) : Tagged s := by
  intro rest hsuffix
  induction h with
  | nil => simp at hsuffix
  | char hc _ ih =>
    rcases List.suffix_cons_iff.mp hsuffix with heq | hsuffix
    · exact absurd (List.cons.inj heq).1.symm hc
    · exact ih hsuffix
  | tag tag _ ih =>
    obtain ⟨front, hfront⟩ := hsuffix
    rcases List.append_eq_append_iff.mp hfront with ⟨tail, htext, hrest⟩ | ⟨skipped, -, hs⟩
    · obtain ⟨body, hbody, hnot⟩ := tag.ledBy_text
      cases tail with
      | nil => exact ih ⟨[], hrest⟩
      | cons c tail =>
        obtain ⟨rfl, -⟩ := List.cons.inj hrest
        cases front with
        | nil =>
          refine ⟨tag, ?_⟩
          rw [htext, hrest]
          exact List.prefix_append _ _
        | cons d front =>
          -- The second occurrence of the leading character would be inside the tag.
          rw [hbody, List.cons_append] at htext
          rw [(List.cons.inj htext).2] at hnot
          simp at hnot
    · exact ih ⟨skipped, hs.symm⟩

theorem Balanced.append (h : Balanced tags) (hmore : Balanced more) : Balanced (tags ++ more) := by
  induction h with
  | nil => exact hmore
  | element h hinner _ _ ih =>
    rw [List.cons_append, List.append_assoc, List.cons_append]
    exact .element h hinner ih

theorem Balanced.within {tag : Tag} {name : TagName} (h : tag.opens? = some name)
    (htags : Balanced tags) : Balanced (tag :: (tags ++ [.closing name])) :=
  .element h htags .nil

end

end LogDigest.Blob
