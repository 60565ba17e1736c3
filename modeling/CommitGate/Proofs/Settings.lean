import CommitGate.Settings
import Mathlib.Data.List.Perm.Basic

/-! # What is wrong with settings

Settings are faulty where a required one is empty, and when there is no time to wait.

* `Settings.IsWrong` says what is wrong with settings, and `mem_faults_iff`: all of this is reported;
* `faults_sublist_order`: it is reported in the order path, reference, token, base URL, repository, timeout;
* `faults_eq_faultsByField_iff`: this is the order of the fields unless the repository is missing together with
  the token or the base URL.
-/

namespace CommitGate.Settings

/-- The settings that must not be empty, under the names that they are missed by, in the order of the
fields. -/
def required (s : Settings) : List (String × String) :=
  [("path", s.path), ("ref", s.reference), ("repository", s.repository), ("api token", s.token),
    ("api base url", s.baseUrl)]

/-- The fault of a setting that is missed by a name. -/
def missing (name : String) : Fault := .settings ("missing config field: " ++ name)

/-- The fault of a timeout of zero. -/
def timeless : Fault := .settings "timeout must be at least one second"

/-- What is wrong with settings: a required one is empty, or there is no time to wait. -/
def IsWrong (s : Settings) (f : Fault) : Prop :=
  (∃ name, (name, "") ∈ s.required ∧ f = missing name) ∨ s.timeout = 0 ∧ f = timeless

/-- All faults that settings can have, in the order in which they are looked for. -/
def order : List Fault :=
  ["path", "ref", "api token", "api base url", "repository"].map missing ++ [timeless]

/-- All that is wrong with settings, in the order of the fields. -/
def faultsByField (s : Settings) : List Fault :=
  s.required.flatMap (fun (name, value) => absent name value) ++ noTime s.timeout

theorem mem_absent_iff {name value : String} {f : Fault} :
    f ∈ absent name value ↔ value = "" ∧ f = missing name := by
  rw [absent, missing]
  split
  · rename_i empty
    simp [String.isEmpty_iff.1 empty]
  · rename_i filled
    rw [String.isEmpty_iff] at filled
    simp [filled]

theorem absent_eq_nil_iff {name value : String} : absent name value = [] ↔ value ≠ "" := by
  rw [List.eq_nil_iff_forall_not_mem]
  simp [mem_absent_iff]

theorem mem_noTime_iff {timeout : Nat} {f : Fault} : f ∈ noTime timeout ↔ timeout = 0 ∧ f = timeless := by
  rw [noTime, timeless]
  split
  · rename_i zero
    simp [zero]
  · rename_i positive
    simp [positive]

/-- What is reported is what is wrong. -/
theorem mem_faults_iff {s : Settings} {f : Fault} : f ∈ s.faults ↔ s.IsWrong f := by
  simp only [faults, List.mem_append, mem_absent_iff, mem_noTime_iff, IsWrong, required, List.mem_cons,
    List.not_mem_nil, or_false, Prod.mk.injEq]
  constructor
  · rintro (((((⟨empty, rfl⟩ | ⟨empty, rfl⟩) | ⟨empty, rfl⟩) | ⟨empty, rfl⟩) | ⟨empty, rfl⟩) | timeless)
    · exact .inl ⟨_, .inl ⟨rfl, empty.symm⟩, rfl⟩
    · exact .inl ⟨_, .inr (.inl ⟨rfl, empty.symm⟩), rfl⟩
    · exact .inl ⟨_, .inr (.inr (.inr (.inl ⟨rfl, empty.symm⟩))), rfl⟩
    · exact .inl ⟨_, .inr (.inr (.inr (.inr ⟨rfl, empty.symm⟩))), rfl⟩
    · exact .inl ⟨_, .inr (.inr (.inl ⟨rfl, empty.symm⟩)), rfl⟩
    · exact .inr timeless
  · rintro (⟨name, empty, rfl⟩ | timeless)
    · rcases empty with ⟨rfl, empty⟩ | ⟨rfl, empty⟩ | ⟨rfl, empty⟩ | ⟨rfl, empty⟩ | ⟨rfl, empty⟩ <;>
        simp [← empty]
    · exact .inr timeless

theorem absent_sublist (name value : String) : (absent name value).Sublist [missing name] := by
  rw [absent]
  split
  · exact .refl _
  · exact List.nil_sublist _

theorem noTime_sublist (timeout : Nat) : (noTime timeout).Sublist [timeless] := by
  rw [noTime]
  split
  · exact .refl _
  · exact List.nil_sublist _

/-- It is reported in the order in which it is looked for. -/
theorem faults_sublist_order (s : Settings) : s.faults.Sublist order :=
  (((((absent_sublist "path" s.path).append (absent_sublist "ref" s.reference)).append
    (absent_sublist "api token" s.token)).append (absent_sublist "api base url" s.baseUrl)).append
    (absent_sublist "repository" s.repository)).append (noTime_sublist s.timeout)

/-- A program that stops at a fault of its settings ends with the exit code of one that cannot begin. -/
theorem exitCode_of_mem_faults {s : Settings} {f : Fault} (h : f ∈ s.faults) : f.exitCode = 2 := by
  rcases mem_faults_iff.1 h with ⟨name, -, rfl⟩ | ⟨-, rfl⟩
  · rfl
  · rfl

/-- Only the repository has another place among the faults than among the fields. -/
theorem faultsByField_eq (s : Settings) :
    s.faultsByField =
      absent "path" s.path ++ (absent "ref" s.reference ++ (absent "repository" s.repository ++
        (absent "api token" s.token ++ absent "api base url" s.baseUrl) ++ noTime s.timeout)) := by
  simp only [faultsByField, required, List.flatMap_cons, List.flatMap_nil, List.append_nil,
    List.append_assoc]

theorem faults_eq (s : Settings) :
    s.faults =
      absent "path" s.path ++ (absent "ref" s.reference ++
        ((absent "api token" s.token ++ absent "api base url" s.baseUrl) ++
          absent "repository" s.repository ++ noTime s.timeout)) := by
  simp only [faults, List.append_assoc]

/-- The faults that are reported are those of all the fields. -/
theorem faults_perm (s : Settings) : s.faults.Perm s.faultsByField := by
  rw [faults_eq, faultsByField_eq]
  refine .append_left _ (.append_left _ (.append_right _ ?_))
  exact List.perm_append_comm

/-- A list keeps its order behind what is put at its end if it is empty. -/
theorem concat_eq_cons_iff {α : Type} {xs : List α} {y : α} (h : y ∉ xs) :
    xs ++ [y] = y :: xs ↔ xs = [] := by
  cases xs with
  | nil => simp
  | cons x rest =>
    have other : x ≠ y := fun same => h (same ▸ List.mem_cons_self)
    simp [other]

/-- They are reported in the order of the fields unless the repository is missing together with the token
or the base URL. -/
theorem faults_eq_faultsByField_iff (s : Settings) :
    s.faults = s.faultsByField ↔ s.repository ≠ "" ∨ s.token ≠ "" ∧ s.baseUrl ≠ "" := by
  rw [faults_eq, faultsByField_eq, List.append_cancel_left_eq, List.append_cancel_left_eq,
    List.append_cancel_right_eq]
  by_cases empty : s.repository = ""
  · have last : absent "repository" s.repository = [missing "repository"] := by
      rw [empty]
      rfl
    have other : missing "repository" ∉ absent "api token" s.token ++ absent "api base url" s.baseUrl := by
      simp [mem_absent_iff, missing]
    rw [last, List.singleton_append, concat_eq_cons_iff other, List.append_eq_nil_iff,
      absent_eq_nil_iff, absent_eq_nil_iff]
    simp [empty]
  · simp [absent_eq_nil_iff.2 empty, empty]

end CommitGate.Settings
