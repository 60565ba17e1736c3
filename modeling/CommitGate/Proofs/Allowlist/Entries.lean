import CommitGate.Allowlist.Reader
import Mathlib.Data.List.Sort
import Mathlib.Data.String.Basic
import Mathlib.Logic.Relation

/-! # Elements of an allowlist's lists

An element is an entry in one of two forms: a text alone, or a mapping with a text and at most one list of
repositories.

* `Scope.eq_ofList_iff`: a scope is the set of the names that are given for it;
* `Allowlist.IsEntry` holds of an element, the text that it gives and its repositories, and
  `Allowlist.entry?_eq_some_iff`: such elements are taken and no others;
* `Allowlist.Rewrites` holds of two ways to write an element, and `Allowlist.entry?_of_rewrites`: they give the same.
-/

namespace CommitGate

/-! ## Scopes as sets -/

namespace Scope

/-- The scope holds these names, in whatever order and however often they are given. -/
def IsSetOf (s : Scope) (names : List String) : Prop :=
  s.repositories.Pairwise (· < ·) ∧ ∀ name, name ∈ s.repositories ↔ name ∈ names

theorem pairwise_insert {name : String} {names : List String} (h : names.Pairwise (· < ·)) :
    (insert name names).Pairwise (· < ·) := by
  induction names with
  | nil => exact List.pairwise_singleton _ _
  | cons n rest ih =>
    obtain ⟨above, sorted⟩ := List.pairwise_cons.1 h
    unfold insert
    split
    · rename_i below
      refine List.pairwise_cons.2 ⟨fun other hother => ?_, h⟩
      rcases List.mem_cons.1 hother with rfl | hother
      · exact below
      · exact lt_trans below (above other hother)
    · rename_i notBelow
      split
      · exact h
      · rename_i differ
        have after : n < name := lt_of_le_of_ne (not_lt.1 notBelow) (Ne.symm differ)
        refine List.pairwise_cons.2 ⟨fun other hother => ?_, ih sorted⟩
        rcases mem_insert.1 hother with rfl | hother
        · exact after
        · exact above other hother

theorem pairwise_ofList (names : List String) : (ofList names).repositories.Pairwise (· < ·) := by
  unfold ofList
  induction names with
  | nil => exact .nil
  | cons name names ih => exact pairwise_insert ih

/-- The scope of a list of names is the set of the names. -/
theorem eq_ofList_iff {s : Scope} {names : List String} : s = ofList names ↔ s.IsSetOf names := by
  constructor
  · rintro rfl
    exact ⟨pairwise_ofList names, fun _ => mem_ofList⟩
  · rintro ⟨sorted, same⟩
    have equal : s.repositories = (ofList names).repositories :=
      sorted.eq_of_mem_iff (pairwise_ofList names) fun name => (same name).trans mem_ofList.symm
    cases s
    exact congrArg Scope.mk equal

end Scope

namespace Allowlist

open Yaml

/-! ## What an element says -/

/-- The value of a text. -/
def textValue (s : String) : Value := .scalar (.text s.toList)

/-- The value of a list of texts. -/
def textsValue (names : List String) : Value := .sequence (names.map textValue)

/-- The values that an element has for a member. -/
def valuesOf (main : String) (name : MemberName) (ms : List (Value × Value)) : List Value :=
  (ms.filter fun m => memberName? main m.1 = some name).map Prod.snd

/-- An element gives a text and the names of repositories: it is the text, or a mapping that has the text once under
the main name, and at most one list of names, among any other members. -/
inductive IsEntry (main : String) : Value → String → List String → Prop
  | bare (text) : IsEntry main (textValue text) text []
  | mapping {ms text names} (named : ∀ m ∈ ms, (memberName? main m.1).isSome = true)
      (once : valuesOf main .main ms = [textValue text])
      (limited : valuesOf main .repositories ms = [] ∧ names = [] ∨
        valuesOf main .repositories ms = [textsValue names]) :
      IsEntry main (.mapping ms) text names

theorem text?_eq_some_iff {v : Value} {text : String} : text? v = some text ↔ v = textValue text := by
  constructor
  · intro h
    unfold text? at h
    split at h
    · obtain rfl := Option.some.inj h
      rw [textValue, String.toList_ofList]
    · cases h
  · rintro rfl
    exact congrArg some String.ofList_toList

theorem textValue_injective : Function.Injective textValue := fun _ _ h =>
  Option.some.inj ((text?_eq_some_iff.2 rfl).symm.trans (text?_eq_some_iff.2 h))

theorem textsValue_injective : Function.Injective textsValue := fun _ _ h =>
  List.map_injective_iff.2 textValue_injective (Value.sequence.inj h)

theorem texts?_eq_some_iff {v : Value} {names : List String} : texts? v = some names ↔ v = textsValue names := by
  have items : ∀ vs : List Value, vs.mapM text? = some names ↔ vs = names.map textValue := by
    intro vs
    induction vs generalizing names with
    | nil => cases names <;> simp
    | cons v vs ih =>
      rw [List.mapM_cons]
      cases names with
      | nil => simp [Option.bind_eq_some_iff]
      | cons name names => simp [Option.bind_eq_some_iff, text?_eq_some_iff, ih]
  unfold texts? textsValue
  split
  · rw [items, Value.sequence.injEq]
  · rename_i other
    simp only [reduceCtorEq, false_iff]
    intro h
    exact other _ h

/-! ## What is taken -/

/-- At most one value is read, where nothing has been read before. -/
def Stores {α β : Type} (reads : β → α → Prop) (values : List β) (before after : Option α) : Prop :=
  (values = [] ∧ after = before) ∨ before = none ∧ ∃ v a, values = [v] ∧ reads v a ∧ after = some a

section

variable {α β : Type} {reads : β → α → Prop} {before after : Option α}

@[simp] theorem stores_nil_iff : Stores reads [] before after ↔ after = before := by
  simp [Stores]

theorem stores_cons_iff {v : β} {values : List β} : Stores reads (v :: values) before after ↔
    before = none ∧ ∃ a, reads v a ∧ Stores reads values (some a) after := by
  constructor
  · rintro (⟨no, -⟩ | ⟨first, _, a, parts, value, rfl⟩)
    · cases no
    · obtain ⟨rfl, rfl⟩ := List.cons.inj parts
      exact ⟨first, a, value, .inl ⟨rfl, rfl⟩⟩
  · rintro ⟨first, a, value, ⟨rfl, rfl⟩ | ⟨no, -⟩⟩
    · exact .inr ⟨first, v, a, rfl, value, rfl⟩
    · cases no

end

section

variable {main : String} {m : Value × Value} {ms : List (Value × Value)}

theorem valuesOf_cons_of_eq {name : MemberName} (h : memberName? main m.1 = some name) :
    valuesOf main name (m :: ms) = m.2 :: valuesOf main name ms := by
  simp [valuesOf, h]

theorem valuesOf_cons_of_ne {name : MemberName} (h : memberName? main m.1 ≠ some name) :
    valuesOf main name (m :: ms) = valuesOf main name ms := by
  simp [valuesOf, h]

/-- The members of an element are stored if all have names and none of the two known ones stands twice. -/
theorem foldlM_addMember_eq_some_iff {before after : Members} :
    ms.foldlM (addMember main) before = some after ↔
      (∀ m ∈ ms, (memberName? main m.1).isSome = true) ∧
        Stores (text? · = some ·) (valuesOf main .main ms) before.main after.main ∧
          Stores (texts? · = some ·) (valuesOf main .repositories ms) before.repositories after.repositories := by
  -- on the members, whatever has been stored before them
  induction ms generalizing before with
  | nil =>
    constructor
    · intro same
      obtain rfl := Option.some.inj same
      simp [valuesOf]
    · rintro ⟨-, text, names⟩
      obtain ⟨_, _⟩ := before
      obtain ⟨_, _⟩ := after
      obtain rfl := stores_nil_iff.1 text
      obtain rfl := stores_nil_iff.1 names
      rfl
  | cons m ms ih =>
    rw [List.foldlM_cons, List.forall_mem_cons]
    -- by the name of the first member: it is refused, stored in one of two places, or passed over
    cases name : memberName? main m.1 with
    | none => simp [addMember, name]
    | some own =>
      cases own with
      | main =>
        rw [valuesOf_cons_of_eq name, valuesOf_cons_of_ne (by simp [name]), stores_cons_iff]
        cases first : before.main with
        | some text => simp [addMember, name, first]
        | none =>
          cases value : text? m.2 with
          | none => simp [addMember, name, first, value]
          | some text => simp [addMember, name, first, value, ih]
      | repositories =>
        rw [valuesOf_cons_of_eq name, valuesOf_cons_of_ne (by simp [name]), stores_cons_iff]
        cases first : before.repositories with
        | some names => simp [addMember, name, first]
        | none =>
          cases value : texts? m.2 with
          | none => simp [addMember, name, first, value]
          | some names => simp [addMember, name, first, value, ih]
      | other =>
        rw [valuesOf_cons_of_ne (by simp [name]), valuesOf_cons_of_ne (by simp [name])]
        simp [addMember, name, ih]

/-- Exactly the elements that say which text is meant are taken, with the set of their repositories. -/
theorem entry?_eq_some_iff {v : Value} {text : String} {scope : Scope} :
    entry? main v = some (text, scope) ↔ ∃ names, IsEntry main v text names ∧ scope.IsSetOf names := by
  constructor
  · intro taken
    unfold entry? at taken
    split at taken
    · rename_i s
      obtain ⟨rfl, rfl⟩ := Prod.mk.inj (Option.some.inj taken)
      refine ⟨[], ?_, Scope.eq_ofList_iff.1 rfl⟩
      have bare : IsEntry main _ _ _ := .bare (String.ofList s)
      rwa [textValue, String.toList_ofList] at bare
    · rename_i ms
      obtain ⟨found, stored, taken⟩ := Option.bind_eq_some_iff.1 taken
      obtain ⟨own, hown, taken⟩ := Option.bind_eq_some_iff.1 taken
      obtain ⟨rfl, rfl⟩ := Prod.mk.inj (Option.some.inj taken)
      obtain ⟨named, text, names⟩ := foldlM_addMember_eq_some_iff.1 stored
      -- a text has been found, so the main name stands there, and once
      have once : valuesOf main .main ms = [textValue own] := by
        rcases text with ⟨-, none⟩ | ⟨-, v, text, parts, value, some⟩
        · rw [hown] at none
          cases none
        · obtain rfl := Option.some.inj (hown.symm.trans some)
          rw [parts, text?_eq_some_iff.1 value]
      refine ⟨found.repositories.getD [], .mapping named once ?_, Scope.eq_ofList_iff.1 rfl⟩
      rcases names with ⟨none, absent⟩ | ⟨-, v, names, parts, value, some⟩
      · exact .inl ⟨none, by rw [absent]; rfl⟩
      · exact .inr (by rw [parts, some, texts?_eq_some_iff.1 value]; rfl)
    · cases taken
  · rintro ⟨names, entry, set⟩
    obtain rfl := Scope.eq_ofList_iff.2 set
    cases entry with
    | bare =>
      simp only [ entry?, textValue, String.ofList_toList]
      rfl
    | @mapping ms _ _ named once limited =>
      have stored : ∃ repositories : Option (List String), repositories.getD [] = names ∧
          ms.foldlM (addMember main) ⟨none, none⟩ = some ⟨some text, repositories⟩ := by
        have own : Stores (text? · = some ·) (valuesOf main .main ms) none (some text) :=
          .inr ⟨rfl, _, text, once, text?_eq_some_iff.2 rfl, rfl⟩
        rcases limited with ⟨none, rfl⟩ | some
        · exact ⟨.none, rfl, foldlM_addMember_eq_some_iff.2 ⟨named, own, .inl ⟨none, rfl⟩⟩⟩
        · exact ⟨.some names, rfl, foldlM_addMember_eq_some_iff.2
            ⟨named, own, .inr ⟨rfl, _, names, some, texts?_eq_some_iff.2 rfl, rfl⟩⟩⟩
      obtain ⟨repositories, rfl, stored⟩ := stored
      simp only [ entry?, stored, Option.bind_eq_bind, Option.bind_some]
      rfl

end

/-! ## Ways to write an element -/

/-- Two ways to write an element: a text alone or under the main name, with an empty list of repositories or none; with
a member of another name or without it; and with repositories in another order or repeated. -/
inductive Rewrites (main : String) : Value → Value → Prop
  | wrapped (text) : Rewrites main (textValue text) (.mapping [(textValue main, textValue text)])
  | unlimited {text ms} (members : ms.Perm [(textValue main, textValue text), (textValue "repositories", textsValue [])]) :
      Rewrites main (textValue text) (.mapping ms)
  | unknown {before after key value} (other : memberName? main key = some .other) :
      Rewrites main (.mapping (before ++ after)) (.mapping (before ++ (key, value) :: after))
  | listed {before after key names names'} (repositories : memberName? main key = some .repositories)
      (same : ∀ name, name ∈ names ↔ name ∈ names') :
      Rewrites main (.mapping (before ++ (key, textsValue names) :: after))
        (.mapping (before ++ (key, textsValue names') :: after))

section

variable {main : String}

theorem memberName?_main (main : String) : memberName? main (textValue main) = some .main := by
  simp [memberName?, textValue]

theorem memberName?_repositories (h : main ≠ "repositories") :
    memberName? main (textValue "repositories") = some .repositories := by
  have differ : "repositories".toList ≠ main.toList := fun same => h (String.toList_inj.1 same).symm
  change some (if "repositories".toList = main.toList then _ else _) = _
  rw [if_neg differ, if_pos rfl]

theorem valuesOf_append (name : MemberName) (before after : List (Value × Value)) :
    valuesOf main name (before ++ after) = valuesOf main name before ++ valuesOf main name after := by
  simp [valuesOf]

theorem entry?_textValue (text : String) : entry? main (textValue text) = some (text, .all) := by
  simp [ entry?, textValue]

/-- A text alone is the same as the text under the main name, with the repositories empty or absent. -/
theorem entry?_of_members {text : String} {ms : List (Value × Value)}
    (named : ∀ m ∈ ms, (memberName? main m.1).isSome = true) (once : valuesOf main .main ms = [textValue text])
    (all : valuesOf main .repositories ms = [] ∨ valuesOf main .repositories ms = [textsValue []]) :
    entry? main (.mapping ms) = entry? main (textValue text) := by
  rw [entry?_textValue]
  refine entry?_eq_some_iff.2 ⟨[], .mapping named once ?_, Scope.eq_ofList_iff.1 rfl⟩
  exact all.imp_left fun none => ⟨none, rfl⟩

theorem isEntry_mapping_iff {ms : List (Value × Value)} {text : String} {names : List String} :
    IsEntry main (.mapping ms) text names ↔ (∀ m ∈ ms, (memberName? main m.1).isSome = true) ∧
      valuesOf main .main ms = [textValue text] ∧ (valuesOf main .repositories ms = [] ∧ names = [] ∨
        valuesOf main .repositories ms = [textsValue names]) := by
  constructor
  · intro entry
    obtain _ | ⟨named, once, limited⟩ := entry
    exact ⟨named, once, limited⟩
  · exact fun ⟨named, once, limited⟩ => .mapping named once limited

theorem entry?_unknown {before after : List (Value × Value)} {key value : Value}
    (other : memberName? main key = some .other) :
    entry? main (.mapping (before ++ (key, value) :: after)) = entry? main (.mapping (before ++ after)) := by
  have values : ∀ name, name ≠ .other →
      valuesOf main name (before ++ (key, value) :: after) = valuesOf main name (before ++ after) := by
    intro name known
    rw [valuesOf_append, valuesOf_append, valuesOf_cons_of_ne (by simp [other, known.symm])]
  have named : (∀ m ∈ before ++ (key, value) :: after, (memberName? main m.1).isSome = true) ↔
      ∀ m ∈ before ++ after, (memberName? main m.1).isSome = true := by
    rw [List.forall_mem_append, List.forall_mem_append, List.forall_mem_cons]
    simp [other]
  refine Option.ext fun ⟨text, scope⟩ => ?_
  simp only [entry?_eq_some_iff, isEntry_mapping_iff, named, values .main (by decide),
    values .repositories (by decide)]

theorem entry?_listed {before after : List (Value × Value)} {key : Value} {names names' : List String}
    (repositories : memberName? main key = some .repositories) (same : ∀ name, name ∈ names ↔ name ∈ names')
    {text : String} {scope : Scope}
    (taken : entry? main (.mapping (before ++ (key, textsValue names) :: after)) = some (text, scope)) :
    entry? main (.mapping (before ++ (key, textsValue names') :: after)) = some (text, scope) := by
  obtain ⟨all, entry, set⟩ := entry?_eq_some_iff.1 taken
  obtain ⟨named, once, limited⟩ := isEntry_mapping_iff.1 entry
  have main' : ∀ names, valuesOf main .main (before ++ (key, textsValue names) :: after) =
      valuesOf main .main (before ++ after) := fun names => by
    rw [valuesOf_append, valuesOf_append, valuesOf_cons_of_ne (by simp [repositories])]
  have list : ∀ names, valuesOf main .repositories (before ++ (key, textsValue names) :: after) =
      valuesOf main .repositories before ++ textsValue names :: valuesOf main .repositories after := fun names => by
    rw [valuesOf_append, valuesOf_cons_of_eq repositories]
  obtain ⟨first, last, only⟩ : valuesOf main .repositories before = [] ∧ valuesOf main .repositories after = [] ∧
      names = all := by
    rw [list] at limited
    rcases limited with ⟨none, -⟩ | one
    · exact absurd none (by simp)
    · rcases List.append_eq_singleton_iff.1 one with ⟨first, parts⟩ | ⟨-, none⟩
      · obtain ⟨equal, last⟩ := List.cons.inj parts
        exact ⟨first, last, textsValue_injective equal⟩
      · cases none
  subst only
  refine entry?_eq_some_iff.2 ⟨names', isEntry_mapping_iff.2 ⟨?_, ?_, .inr ?_⟩, set.1, fun name => ?_⟩
  · rw [List.forall_mem_append, List.forall_mem_cons] at named ⊢
    exact named
  · rwa [main'] at once ⊢
  · rw [list, first, last, List.nil_append]
  · rw [set.2, same]

/-- However an element is written, the same is taken. -/
theorem entry?_of_rewrites (h : main ≠ "repositories") {v v' : Value} (rewrites : Rewrites main v v') :
    entry? main v = entry? main v' := by
  cases rewrites with
  | wrapped text =>
    refine (entry?_of_members ?_ ?_ (.inl ?_)).symm
    · simp [memberName?_main]
    · simp [valuesOf, memberName?_main]
    · simp [valuesOf, memberName?_main]
  | @unlimited text ms members =>
    have values : ∀ name, (valuesOf main name ms).Perm (valuesOf main name
        [(textValue main, textValue text), (textValue "repositories", textsValue [])]) :=
      fun name => (members.filter _).map _
    refine (entry?_of_members (fun m hm => ?_) ?_ (.inr ?_)).symm
    · have known := members.mem_iff.1 hm
      simp only [List.mem_cons, List.not_mem_nil, or_false] at known
      rcases known with rfl | rfl
      · simp [memberName?_main]
      · simp [memberName?_repositories h]
    · refine List.perm_singleton.1 ((values .main).trans ?_)
      simp [valuesOf, memberName?_main, memberName?_repositories h]
    · refine List.perm_singleton.1 ((values .repositories).trans ?_)
      simp [valuesOf, memberName?_main, memberName?_repositories h]
  | unknown other => exact (entry?_unknown other).symm
  | listed repositories same =>
    refine Option.ext fun ⟨text, scope⟩ => ?_
    exact ⟨entry?_listed repositories same, entry?_listed repositories fun name => (same name).symm⟩

theorem entry?_of_eqvGen (h : main ≠ "repositories") {v v' : Value}
    (rewritten : Relation.EqvGen (Rewrites main) v v') : entry? main v = entry? main v' := by
  induction rewritten with
  | rel v v' rewrites => exact entry?_of_rewrites h rewrites
  | refl v => rfl
  | symm v v' _ ih => exact ih.symm
  | trans v₁ v₂ v₃ _ _ first second => exact first.trans second

end

end Allowlist

end CommitGate
