import ApiShapes.Conversion.Definition
import ApiShapes.Proofs.Conversion.ForeignKind
import ApiShapes.Proofs.Text.Occurrence
import ApiShapes.Proofs.TypeSpec.FirstOfEachName
import Mathlib.Tactic

/-!
# Accounts of members

Reading a list of members keeps an entry or records a warning that it is skipped, never both and
never neither.  What is kept are the first readable entries of each name, where the names of an
earlier group count as taken.  The account of a group states both; it is shown entry by entry, for
any names that are taken before.
-/

namespace ApiShapes.Conversion

open JsonApi Shape Text TypeSpec

/-- The items of a list under a key. -/
def listed (key : String) (v : Value) : List Value :=
  match v.get? key with
  | some (.list items) => items
  | _ => []

theorem listed_of_get? {key : String} {v : Value} {items : List Value}
    (h : v.get? key = some (.list items)) : listed key v = items := by
  rw [listed, h]

/-! ## Warnings of skipped members -/

def Warning.isSkip (w : Warning) : Bool :=
  startsWith "Skipping".toList w.message.toList

@[simp] def Warning.tellsOmission : Warning → Bool
  | .memberSkipped .. | .memberRepeated .. | .propertyRepeated .. => true
  | _ => false

@[simp] theorem isSkip_eq_tellsOmission (w : Warning) : w.isSkip = w.tellsOmission := by
  unfold Warning.isSkip Warning.message
  cases w with
  | memberSkipped | memberRepeated | propertyRepeated =>
      simp only [String.append_assoc]
      exact startsWith_append_of_prefix _ (by decide)
  | _ =>
      simp only [String.append_assoc]
      exact startsWith_append_of_differ _ (by decide) (by decide)

/-! ## Groups -/

section

variable {α : Type} (shape : Shape α) (property : α → Property)

/-- The properties of the entries that can be read. -/
def readable (raws : List Value) : List Property :=
  raws.filterMap fun raw => (shape raw).accepted?.map property

theorem length_readable_le (raws : List Value) :
    (readable shape property raws).length ≤ raws.length :=
  List.length_filterMap_le _ _

theorem readable_cons_of_valid {raw : Value} {a : α} (h : shape raw = .valid a)
    (raws : List Value) :
    readable shape property (raw :: raws) = property a :: readable shape property raws := by
  unfold readable
  rw [List.filterMap_cons_some]
  rw [(Checked.accepted?_eq_some_iff ..).2 h]
  rfl

theorem readable_cons_of_refused {raw : Value} (h : ∀ a, shape raw ≠ .valid a)
    (raws : List Value) :
    readable shape property (raw :: raws) = readable shape property raws := by
  unfold readable
  rw [List.filterMap_cons_none]
  rw [(Checked.accepted?_eq_none_iff _).2 h]
  rfl

theorem length_readable_eq_iff (raws : List Value) :
    (readable shape property raws).length = raws.length ↔
      ∀ raw ∈ raws, ∃ a, shape raw = .valid a := by
  unfold readable
  rw [List.filterMap_length_eq_length]
  apply forall₂_congr
  intro raw _
  rw [Option.isSome_map, Option.isSome_iff_exists]
  simp only [Checked.accepted?_eq_some_iff]

theorem readable_of_forall₂ {raws : List Value} {as : List α}
    (h : List.Forall₂ (fun raw a => shape raw = .valid a) raws as) :
    readable shape property raws = as.map property := by
  induction h with
  | nil => rfl
  | cons ha _ ih => rw [readable_cons_of_valid shape property ha, ih, List.map_cons]

/-- What is known of the members read from a list after members of the taken names. -/
structure GroupAccount (taken : List String) (raws : List Value) (m : Members α) : Prop where
  members : m.members.map property =
    firstOfEachName ((readable shape property raws).filter fun p => p.name ∉ taken)
  seen : ∀ name, name ∈ m.seen ↔ name ∈ (m.members.map property).map (·.name) ∨ name ∈ taken
  count : raws.length = m.members.length + m.warnings.countP Warning.isSkip

variable {shape property} {salvage : Value → Checked (Outcome α)} {nameOf : α → String}
  (hsalvage : Salvages shape salvage) (hname : ∀ a, (property a).name = nameOf a)
  (group : MemberGroup) (serializer : String)

include hsalvage hname

theorem salvageFrom_account (raws : List Value) (index : Nat) (taken : List String) :
    ∃ m, salvageFrom group serializer salvage nameOf index taken raws = .valid m ∧
      GroupAccount shape property taken raws m := by
  -- A kept member takes its name, so the account is for any names taken before.
  induction raws generalizing index taken with
  | nil =>
      refine ⟨⟨[], taken, []⟩, rfl, ?_, ?_, rfl⟩
      · simp [readable]
      · simp
  | cons raw raws ih =>
      rcases hsalvage raw with ⟨a, hshape, hkept⟩ | ⟨hrefused, fault, hskipped⟩
      · by_cases htaken : nameOf a ∈ taken
        · obtain ⟨m, hm, hmembers, hseen, hcount⟩ := ih (index + 1) taken
          refine ⟨{ m with warnings := .memberRepeated group (nameOf a) serializer :: m.warnings },
            ?_, ?_, hseen, ?_⟩
          · rw [salvageFrom, hkept, Checked.andThen_valid]
            simp only [List.contains_iff_mem, htaken, if_true]
            rw [hm, Checked.map_valid]
          · rw [hmembers, readable_cons_of_valid shape property hshape, List.filter_cons,
              if_neg (by simpa [hname] using htaken)]
          · simp only [List.length_cons, List.countP_cons, isSkip_eq_tellsOmission,
              Warning.tellsOmission, if_true]
            omega
        · obtain ⟨m, hm, hmembers, hseen, hcount⟩ := ih (index + 1) (nameOf a :: taken)
          refine ⟨{ m with members := a :: m.members }, ?_, ?_, ?_, ?_⟩
          · rw [salvageFrom, hkept, Checked.andThen_valid]
            simp only [List.contains_iff_mem, htaken, if_false]
            rw [hm, Checked.map_valid]
          · rw [List.map_cons, hmembers, readable_cons_of_valid shape property hshape,
              firstOfEachName_filter_cons_of_new (by simpa [hname] using htaken), hname]
          · intro name
            rw [hseen name, List.map_cons, List.map_cons, List.mem_cons, List.mem_cons, hname]
            tauto
          · simp only [List.length_cons]
            omega
      · obtain ⟨m, hm, hmembers, hseen, hcount⟩ := ih (index + 1) taken
        refine ⟨{ m with warnings := .memberSkipped group index serializer fault :: m.warnings },
          ?_, ?_, hseen, ?_⟩
        · rw [salvageFrom, hskipped, Checked.andThen_valid]
          simp only [hm, Checked.map_valid]
        · rw [hmembers, readable_cons_of_refused shape property hrefused]
        · simp only [List.length_cons, List.countP_cons, isSkip_eq_tellsOmission,
            Warning.tellsOmission, if_true]
          omega

/-- A group that is no list has no entries, and nothing of it is skipped. -/
theorem salvageGroup_account (resource : Value) (taken : List String) :
    ∃ m, salvageGroup group serializer salvage nameOf taken resource = .valid m ∧
      GroupAccount shape property taken (listed group.name resource) m := by
  have hempty : ∀ w : List Warning, w.countP Warning.isSkip = 0 →
      GroupAccount shape property taken [] ⟨[], taken, w⟩ := by
    intro w hw
    constructor
    · simp [readable]
    · simp
    · rw [hw]
      rfl
  unfold salvageGroup listed
  cases hget : resource.get? group.name with
  | none =>
      refine ⟨_, rfl, hempty _ ?_⟩
      split <;> simp
  | some v =>
      cases v with
      | list items => exact salvageFrom_account hsalvage hname group serializer items 0 taken
      | null =>
          refine ⟨_, rfl, hempty _ ?_⟩
          split <;> simp
      | _ => exact ⟨_, rfl, hempty _ (by simp)⟩

end

end ApiShapes.Conversion
