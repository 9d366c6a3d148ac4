import RangeLab.Proofs.Documents
import RangeLab.Proofs.Lists

/-!
# Scenarios made by settings

A scenario is declared step by step as well: from its identity, by settings that are made one after
the other. Settings of different kinds do not disturb each other, so of all the settings of one kind
it only matters what they make it (`Settles`), and what is as usual need not be set. Roles and
networks are added, so there it is their order that matters. Thus every list of settings that says
of a scenario what is not as usual makes the scenario (`Scenario.foldl_set_of_isBuiltBy`), just as
every document that says so is read as it (`Scenario.written_and_built`).
-/

namespace RangeLab

attribute [ext] RoleDeclaration Scenario

/-! ## Settings made one after the other -/

section

variable {σ α β γ : Type} {set : β → σ → β}

/-- What no setting changes is in the end as it was. -/
theorem foldl_set_eq {get : β → γ} (hset : ∀ b s, get (set b s) = get b) (settings : List σ)
    (b : β) : get (settings.foldl set b) = get b :=
  calc get (settings.foldl set b)
      = settings.foldl (fun c _ => c) (get b) :=
        (List.foldl_hom get fun b s => (hset b s).symm).symm
    _ = get b := List.foldl_fixed settings

/-- What settings add is in the end behind what there was, in the order of the settings. -/
theorem foldl_set_eq_append {get : β → List γ} {added : σ → Option γ}
    (hset : ∀ b s, get (set b s) = get b ++ (added s).toList) (settings : List σ) (b : β) :
    get (settings.foldl set b) = get b ++ settings.filterMap added :=
  calc get (settings.foldl set b)
      = settings.foldl (fun l s => l ++ (added s).toList) (get b) :=
        (List.foldl_hom get fun b s => (hset b s).symm).symm
    _ = get b ++ settings.flatMap fun s => (added s).toList := List.foldl_append_eq_append
    _ = get b ++ settings.filterMap added := by rw [List.filterMap_eq_flatMap_toList]

/-! ## Settings of one kind -/

/-- Among the settings, those of one kind all make the value, and there is one unless it is as
usual. The kind is given by its constructor, with the value that such a setting makes. -/
structure Settles (kind : α → σ) (makes : α → γ) (value usual : γ) (settings : List σ) : Prop where
  agree : ∀ x, kind x ∈ settings → makes x = value
  made : (∃ x, kind x ∈ settings) ∨ value = usual

/-- Settings of one kind that all make the value make it, wherever they start from, and they leave
it if it is made already. -/
theorem foldl_set_of_agree {kind : α → σ} {makes : α → γ} {value : γ} {get : β → γ}
    (hset : ∀ b x, get (set b (kind x)) = makes x)
    (hother : ∀ b s, (∀ x, s ≠ kind x) → get (set b s) = get b) (settings : List σ) (b : β)
    (hagree : ∀ x, kind x ∈ settings → makes x = value)
    (hmade : (∃ x, kind x ∈ settings) ∨ get b = value) : get (settings.foldl set b) = value := by
  induction settings generalizing b with
  | nil => exact hmade.resolve_left fun ⟨_, hx⟩ => List.not_mem_nil hx
  | cons s settings ih =>
      refine ih (set b s) (fun x hx => hagree x (List.mem_cons_of_mem s hx)) ?_
      by_cases hs : ∃ x, s = kind x
      · obtain ⟨x, rfl⟩ := hs
        exact .inr ((hset b x).trans (hagree x List.mem_cons_self))
      · have hkept := hother b s fun x hx => hs ⟨x, hx⟩
        refine hmade.imp (fun ⟨x, hx⟩ => ⟨x, ?_⟩) hkept.trans
        exact (List.mem_cons.mp hx).resolve_left fun heq => hs ⟨x, heq.symm⟩

/-- What settings of one kind alone decide is what they make it. -/
theorem Settles.foldl_eq {kind : α → σ} {makes : α → γ} {value usual : γ} {settings : List σ}
    {get : β → γ} {start : β} (h : Settles kind makes value usual settings)
    (hstart : get start = usual) (hset : ∀ b x, get (set b (kind x)) = makes x)
    (hother : ∀ b s, (∀ x, s ≠ kind x) → get (set b s) = get b) :
    get (settings.foldl set start) = value :=
  foldl_set_of_agree hset hother settings start h.agree
    (h.made.imp_right fun husual => hstart.trans husual.symm)

end

/-! ## Roles -/

namespace RoleDeclaration

/-- The settings make the declaration, from its name on. -/
structure IsBuiltBy (d : RoleDeclaration) (settings : List RoleSetting) : Prop where
  sizing : Settles .sizing id d.sizing (usual d.name).sizing settings
  copies : Settles .copies id d.copies (usual d.name).copies settings
  entryPoint : Settles .entryPoint id d.entryPoint (usual d.name).entryPoint settings
  internetAccess :
    Settles .internetAccess id d.internetAccess (usual d.name).internetAccess settings
  os : Settles .os id d.os (usual d.name).os settings

theorem name_foldl_set (settings : List RoleSetting) (d : RoleDeclaration) :
    (settings.foldl set d).name = d.name :=
  foldl_set_eq (fun _ s => by cases s <;> rfl) settings d

theorem foldl_set_of_isBuiltBy {d : RoleDeclaration} {settings : List RoleSetting}
    (h : d.IsBuiltBy settings) : settings.foldl set { name := d.name } = d := by
  apply RoleDeclaration.ext
  case name => exact name_foldl_set settings _
  case sizing =>
    exact h.sizing.foldl_eq rfl (fun _ _ => rfl) fun _ s _ => by cases s <;> simp_all [set]
  case copies =>
    exact h.copies.foldl_eq rfl (fun _ _ => rfl) fun _ s _ => by cases s <;> simp_all [set]
  case entryPoint =>
    exact h.entryPoint.foldl_eq rfl (fun _ _ => rfl) fun _ s _ => by cases s <;> simp_all [set]
  case internetAccess =>
    exact h.internetAccess.foldl_eq rfl (fun _ _ => rfl) fun _ s _ => by cases s <;> simp_all [set]
  case os =>
    exact h.os.foldl_eq rfl (fun _ _ => rfl) fun _ s _ => by cases s <;> simp_all [set]

/-- The settings that leave nothing to what is usual. -/
def settings (d : RoleDeclaration) : List RoleSetting :=
  [.sizing d.sizing, .copies d.copies, .entryPoint d.entryPoint, .internetAccess d.internetAccess,
   .os d.os]

theorem isBuiltBy_settings (d : RoleDeclaration) : d.IsBuiltBy d.settings where
  sizing := ⟨by simp [settings], .inl ⟨d.sizing, by simp [settings]⟩⟩
  copies := ⟨by simp [settings], .inl ⟨d.copies, by simp [settings]⟩⟩
  entryPoint := ⟨by simp [settings], .inl ⟨d.entryPoint, by simp [settings]⟩⟩
  internetAccess := ⟨by simp [settings], .inl ⟨d.internetAccess, by simp [settings]⟩⟩
  os := ⟨by simp [settings], .inl ⟨d.os, by simp [settings]⟩⟩

end RoleDeclaration

/-! ## Scenarios -/

namespace ScenarioSetting

def role? : ScenarioSetting → Option RoleDeclaration
  | .role d => some d
  | _ => none

def network? : ScenarioSetting → Option NetworkDeclaration
  | .network d => some d
  | _ => none

end ScenarioSetting

namespace Scenario

/-- The settings make the scenario, from its identity on. The roles that they add are made by
settings of their own, the networks of their names and members. -/
structure IsBuiltBy (s : Scenario) (settings : List ScenarioSetting) : Prop where
  rootBlock : Settles .rootBlock id s.rootBlock
    (usual s.institution s.lab s.instances).rootBlock settings
  randomSeed : Settles .randomSeed some s.randomSeed
    (usual s.institution s.lab s.instances).randomSeed settings
  roles : List.Forall₂
    (fun d made => ∃ roleSettings, d.IsBuiltBy roleSettings
      ∧ made = roleSettings.foldl RoleDeclaration.set { name := d.name })
    s.roles (settings.filterMap ScenarioSetting.role?)
  networks : settings.filterMap ScenarioSetting.network?
    = s.networks.map fun d => { name := d.name, members := d.members }
  services : Settles .services id s.services
    (usual s.institution s.lab s.instances).services settings
  indexOffset : Settles .indexOffset id s.indexOffset
    (usual s.institution s.lab s.instances).indexOffset settings

theorem roles_foldl_set (settings : List ScenarioSetting) (s : Scenario) :
    (settings.foldl set s).roles = s.roles ++ settings.filterMap ScenarioSetting.role? :=
  foldl_set_eq_append (fun s setting => by cases setting <;> simp [set, ScenarioSetting.role?])
    settings s

theorem networks_foldl_set (settings : List ScenarioSetting) (s : Scenario) :
    (settings.foldl set s).networks = s.networks ++ settings.filterMap ScenarioSetting.network? :=
  foldl_set_eq_append (fun s setting => by cases setting <;> simp [set, ScenarioSetting.network?])
    settings s

/-- Each role that the settings add is what its own settings make of its name. -/
theorem foldl_set_of_isBuiltBy {s : Scenario} {settings : List ScenarioSetting}
    (h : s.IsBuiltBy settings) :
    settings.foldl set (empty s.institution s.lab s.instances) = s := by
  apply Scenario.ext
  case institution => exact foldl_set_eq (fun _ s => by cases s <;> rfl) settings _
  case lab => exact foldl_set_eq (fun _ s => by cases s <;> rfl) settings _
  case instances => exact foldl_set_eq (fun _ s => by cases s <;> rfl) settings _
  case rootBlock =>
    exact h.rootBlock.foldl_eq rfl (fun _ _ => rfl) fun _ s _ => by cases s <;> simp_all [set]
  case randomSeed =>
    exact h.randomSeed.foldl_eq rfl (fun _ _ => rfl) fun _ s _ => by cases s <;> simp_all [set]
  case roles =>
    have hmade := map_eq_of_forall₂ h.roles fun d made ⟨_, hbuilt, hmade⟩ =>
      show id d = id made from (RoleDeclaration.foldl_set_of_isBuiltBy hbuilt).symm.trans hmade.symm
    rw [List.map_id, List.map_id] at hmade
    rw [roles_foldl_set, ← hmade]
    exact List.nil_append _
  case networks =>
    rw [networks_foldl_set, h.networks]
    exact (List.nil_append _).trans (List.map_id _)
  case services =>
    exact h.services.foldl_eq rfl (fun _ _ => rfl) fun _ s _ => by cases s <;> simp_all [set]
  case indexOffset =>
    exact h.indexOffset.foldl_eq rfl (fun _ _ => rfl) fun _ s _ => by cases s <;> simp_all [set]

/-- The settings that leave nothing to what is usual. -/
def settings (s : Scenario) : List ScenarioSetting :=
  .rootBlock s.rootBlock :: .services s.services :: .indexOffset s.indexOffset
    :: (s.randomSeed.toList.map .randomSeed ++ s.roles.map .role ++ s.networks.map .network)

theorem role?_settings (s : Scenario) : s.settings.filterMap ScenarioSetting.role? = s.roles := by
  simp [settings, List.filterMap_cons, List.filterMap_append, List.filterMap_map,
    Function.comp_def, ScenarioSetting.role?]

theorem network?_settings (s : Scenario) :
    s.settings.filterMap ScenarioSetting.network? = s.networks := by
  simp [settings, List.filterMap_cons, List.filterMap_append, List.filterMap_map,
    Function.comp_def, ScenarioSetting.network?]

theorem isBuiltBy_settings (s : Scenario) : s.IsBuiltBy s.settings where
  rootBlock := ⟨by simp [settings], .inl ⟨s.rootBlock, by simp [settings]⟩⟩
  randomSeed := by
    refine ⟨by simp +contextual [settings], ?_⟩
    cases hseed : s.randomSeed with
    | none => exact .inr rfl
    | some seed => exact .inl ⟨seed, by simp [settings, hseed]⟩
  roles := by
    rw [role?_settings, List.forall₂_same]
    exact fun d _ => ⟨d.settings, d.isBuiltBy_settings,
      (RoleDeclaration.foldl_set_of_isBuiltBy d.isBuiltBy_settings).symm⟩
  networks := by
    rw [network?_settings]
    exact (List.map_id _).symm
  services := ⟨by simp [settings], .inl ⟨s.services, by simp [settings]⟩⟩
  indexOffset := ⟨by simp [settings], .inl ⟨s.indexOffset, by simp [settings]⟩⟩

/-- A scenario is what every document that describes it is read as, and what every list of settings
that says the same makes of its identity. There are such documents and settings for each. -/
theorem written_and_built (s : Scenario) :
    (s.IsWritten s.toJson
      ∧ ∀ v, s.IsWritten v → (∀ text, Json.parse? text = some v → ofText? text = some s)
        ∧ ∀ layout, ofText? (String.ofList (Json.render layout 0 v)) = some s)
    ∧ (∃ settings, s.IsBuiltBy settings)
    ∧ ∀ settings, s.IsBuiltBy settings →
        settings.foldl set (empty s.institution s.lab s.instances) = s :=
  ⟨⟨s.isWritten_toJson, fun _ h => ofText?_of_isWritten h⟩, ⟨s.settings, s.isBuiltBy_settings⟩,
    fun _ h => foldl_set_of_isBuiltBy h⟩

/-- A lab that has a role, a seed and services of its own and is otherwise as usual. -/
theorem written_and_built_udelar :
    let role : RoleDeclaration := { name := "attacker", copies := 2, entryPoint := true }
    let s : Scenario :=
      { institution := "udelar", lab := "lab01", instances := 2, randomSeed := some 7,
        roles := [role], services := { elastic := true } }
    let writtenRole := Json.ofMembers
      [("copies", .ofUInt32 2), ("entry_point", .bool true), ("name", .ofString "attacker")]
    let written := Json.ofMembers
      [("lab_name", .ofString "lab01"), ("instance_number", .ofUInt32 2),
       ("random_seed", .natural 7), ("guest_settings", .list [writtenRole]),
       ("services", .ofMembers [("elastic", .bool true)]), ("institution", .ofString "udelar")]
    let roleSettings := [.entryPoint true, .copies 2]
    let settings :=
      [.services { elastic := true },
       .role (roleSettings.foldl RoleDeclaration.set { name := "attacker" }), .randomSeed 7]
    (s.IsWritten written ∧ ofText? (String.ofList (Json.render .dense 0 written)) = some s)
      ∧ s.IsBuiltBy settings ∧ settings.foldl set (empty "udelar" "lab01" 2) = s := by
  intro role s writtenRole written roleSettings settings
  have hrole : role.IsWritten writtenRole :=
    ⟨_, _, .given rfl (.leftOut rfl (.leftOut rfl (.leftOut rfl (.given rfl (.given rfl
      (.leftOut rfl (.leftOut rfl .nil))))))), List.perm_append_singleton _ _, rfl⟩
  have hservices : s.services.IsWritten (.ofMembers [("elastic", .bool true)]) :=
    ⟨_, _, .leftOut rfl (.leftOut rfl (.given rfl (.leftOut rfl .nil))), .refl _, rfl⟩
  have hwritten : s.IsWritten written :=
    ⟨_, _, .given rfl (.given rfl (.given rfl (.leftOut rfl (.given rfl (.given
      ⟨_, rfl, .cons hrole .nil⟩ (.leftOut rfl (.given hservices (.leftOut rfl .nil)))))))),
      List.perm_append_singleton _ _, rfl⟩
  have hroleBuilt : role.IsBuiltBy roleSettings :=
    { sizing := ⟨by simp [roleSettings], .inr rfl⟩
      copies := ⟨by simp [roleSettings, role], .inl ⟨2, by simp [roleSettings]⟩⟩
      entryPoint := ⟨by simp [roleSettings, role], .inl ⟨true, by simp [roleSettings]⟩⟩
      internetAccess := ⟨by simp [roleSettings], .inr rfl⟩
      os := ⟨by simp [roleSettings], .inr rfl⟩ }
  have hbuilt : s.IsBuiltBy settings :=
    { rootBlock := ⟨by simp [settings], .inr rfl⟩
      randomSeed := ⟨by simp [settings, s], .inl ⟨7, by simp [settings]⟩⟩
      roles := .cons ⟨roleSettings, hroleBuilt, rfl⟩ .nil
      networks := rfl
      services := ⟨by simp [settings, s], .inl ⟨{ elastic := true }, by simp [settings]⟩⟩
      indexOffset := ⟨by simp [settings], .inr rfl⟩ }
  obtain ⟨⟨-, hread⟩, -, hmade⟩ := written_and_built s
  exact ⟨⟨hwritten, (hread written hwritten).2 .dense⟩, hbuilt, hmade settings hbuilt⟩

end Scenario

end RangeLab
