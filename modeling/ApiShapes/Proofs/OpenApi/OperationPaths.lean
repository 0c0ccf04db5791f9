import ApiShapes.Proofs.OpenApi.Components
import Mathlib.Tactic

/-!
# Paths of the operations of a schema

The operations of all resources are written into one table by path and method, where a second
operation in one place would replace the first.  Resource types without slashes keep their paths
apart, so no operation is lost.  The identifiers of the operations are kept apart by the model names
only.
-/

namespace ApiShapes

namespace Entries

variable {α : Type} {key : String} {entries : Entries α}

theorem get?_nil (key : String) : get? key ([] : Entries α) = none :=
  rfl

theorem put_append (hkey : key ∉ entries.keys) (value : α) (rest : Entries α) :
    put key value (entries ++ rest) = entries ++ put key value rest := by
  induction entries with
  | nil => rfl
  | cons entry entries ih =>
      obtain ⟨k, v⟩ := entry
      rw [keys, List.map_cons, List.mem_cons, not_or] at hkey
      rw [List.cons_append, put, if_neg (Ne.symm hkey.1), ih hkey.2, List.cons_append]

theorem get?_append (hkey : key ∉ entries.keys) (rest : Entries α) :
    get? key (entries ++ rest) = get? key rest := by
  induction entries with
  | nil => rfl
  | cons entry entries ih =>
      obtain ⟨k, v⟩ := entry
      rw [keys, List.map_cons, List.mem_cons, not_or] at hkey
      rw [List.cons_append, get?_cons, if_neg hkey.1, ih hkey.2]

theorem update_append (hkey : key ∉ entries.keys) (default : α) (f : α → α) (rest : Entries α) :
    update key default f (entries ++ rest) = entries ++ update key default f rest := by
  unfold update
  rw [put_append hkey, get?_append hkey]

theorem get?_of_mem_of_nodup {value : α} (hkeys : entries.keys.Nodup)
    (hmem : (key, value) ∈ entries) : entries.get? key = some value := by
  have hfound := get?_ofList_of_nodup hkeys hmem
  rwa [ofList_of_nodup hkeys] at hfound

end Entries

namespace OpenApi

/-! ## Writing operations -/

/-- Writes operations under their paths and methods, one after the other. -/
def writeOperations (paths : Entries (Entries Operation)) (os : List TypeSpec.Operation) :
    Entries (Entries Operation) :=
  os.foldl (fun paths o => paths.update o.path [] (·.put o.method.name (operationOf o))) paths

theorem pathsOf_eq (d : TypeSpec.Definition) :
    pathsOf d = writeOperations [] (d.namespaces.flatMap (·.operations)) :=
  rfl

theorem writeOperations_append (paths : Entries (Entries Operation))
    (os more : List TypeSpec.Operation) :
    writeOperations paths (os ++ more) = writeOperations (writeOperations paths os) more :=
  List.foldl_append

/-- Operations on other paths leave the paths before them alone. -/
theorem writeOperations_of_apart {paths : Entries (Entries Operation)}
    {os : List TypeSpec.Operation} (hapart : ∀ o ∈ os, o.path ∉ paths.keys)
    (rest : Entries (Entries Operation)) :
    writeOperations (paths ++ rest) os = paths ++ writeOperations rest os := by
  induction os generalizing rest with
  | nil => rfl
  | cons o os ih =>
      unfold writeOperations at ih ⊢
      rw [List.foldl_cons, List.foldl_cons, Entries.update_append (hapart o List.mem_cons_self)]
      apply ih
      intro p hp
      exact hapart p (List.mem_cons_of_mem _ hp)

theorem mem_keys_writeOperations {path : String} {paths : Entries (Entries Operation)}
    {os : List TypeSpec.Operation} (h : path ∈ (writeOperations paths os).keys) :
    path ∈ paths.keys ∨ ∃ o ∈ os, o.path = path := by
  induction os generalizing paths with
  | nil => exact Or.inl h
  | cons o os ih =>
      rcases ih h with h | ⟨p, hp, rfl⟩
      · simp only [Entries.update, Entries.keys_put] at h
        split at h
        · exact Or.inl h
        · rcases List.mem_append.1 h with h | h
          · exact Or.inl h
          · exact Or.inr ⟨o, List.mem_cons_self, (List.mem_singleton.1 h).symm⟩
      · exact Or.inr ⟨p, List.mem_cons_of_mem _ hp, rfl⟩

/-- What stands in a table after writing stood there before or is one of the operations. -/
theorem exists_of_mem_writeOperations {paths : Entries (Entries Operation)}
    {os : List TypeSpec.Operation} {path : String × Entries Operation} {entry : String × Operation}
    (hpath : path ∈ writeOperations paths os) (hentry : entry ∈ path.2) :
    (∃ before ∈ paths, entry ∈ before.2) ∨ ∃ o ∈ os, entry.2 = operationOf o := by
  induction os generalizing paths with
  | nil => exact Or.inl ⟨path, hpath, hentry⟩
  | cons o os ih =>
      rcases ih hpath with ⟨before, hbefore, hentry⟩ | ⟨o', ho', heq⟩
      · rcases Entries.mem_put hbefore with rfl | hbefore
        · rcases Entries.mem_put hentry with rfl | hold
          · exact Or.inr ⟨o, List.mem_cons_self, rfl⟩
          · cases hfound : paths.get? o.path with
            | none =>
                rw [hfound] at hold
                cases hold
            | some old =>
                rw [hfound] at hold
                exact Or.inl ⟨_, Entries.mem_of_get? hfound, hold⟩
        · exact Or.inl ⟨before, hbefore, hentry⟩
      · exact Or.inr ⟨o', List.mem_cons_of_mem _ ho', heq⟩

/-- Groups of operations that share no path are written one behind the other. -/
theorem writeOperations_flatMap {ι : Type} {items : List ι} {group : ι → List TypeSpec.Operation}
    (hapart : items.Pairwise fun i j => ∀ o ∈ group i, ∀ p ∈ group j, o.path ≠ p.path) :
    writeOperations [] (items.flatMap group) =
      items.flatMap fun i => writeOperations [] (group i) := by
  -- The last group is split off, as the paths of the groups before it are then all written.
  induction items using List.reverseRecOn with
  | nil => rfl
  | append_singleton items last ih =>
      rw [List.pairwise_append] at hapart
      obtain ⟨hitems, -, hlast⟩ := hapart
      have hnew : ∀ o ∈ group last,
          o.path ∉ (writeOperations [] (items.flatMap group)).keys := by
        intro o ho hpath
        rcases mem_keys_writeOperations hpath with hnone | ⟨p, hp, hequal⟩
        · cases hnone
        · obtain ⟨i, hi, hp⟩ := List.mem_flatMap.1 hp
          exact hlast i hi last (List.mem_singleton_self _) p hp o ho hequal
      have hwritten := writeOperations_of_apart hnew []
      rw [List.append_nil] at hwritten
      rw [List.flatMap_append, List.flatMap_append, List.flatMap_singleton, List.flatMap_singleton,
        writeOperations_append, hwritten, ih hitems]

/-- The identifiers of all operations, path by path. -/
def Document.operationIds (d : Document) : List String :=
  d.paths.flatMap fun path => path.2.map (·.2.operationId)

end OpenApi

namespace Conversion

open JsonApi

open OpenApi (Operation Server generate operationOf parameterOf writeOperations)

/-! ## The operations of one resource -/

theorem collectionPath_ne_itemPath {type other : String} (hslash : '/' ∉ type.toList) :
    collectionPath type ≠ itemPath other := by
  intro h
  have htext := congrArg String.toList h
  simp only [collectionPath, itemPath, String.toList_append] at htext
  have hrest : type.toList = _ := List.append_cancel_left htext
  apply hslash
  rw [hrest]
  simp

theorem collectionPath_ne_own_itemPath (type : String) : collectionPath type ≠ itemPath type := by
  intro h
  have hlength := congrArg String.length h
  simp [itemPath] at hlength

/-- The words that the identifiers of a resource's operations start with. -/
def verbs : List String :=
  ["list", "create", "get", "update", "delete"]

/-- Listing and creating stand on the path of the collection and need no parameter, the other three
operations on that of an item, with its identifier as the only parameter. -/
theorem exists_paths_operationsFor (type : String) :
    ∃ list create get update delete : Operation,
      writeOperations [] (operationsFor type) =
        [(collectionPath type, [("get", list), ("post", create)]),
          (itemPath type, [("get", get), ("patch", update), ("delete", delete)])] ∧
      [list, create, get, update, delete].map (·.operationId) = verbs.map (· ++ pascalCase type) ∧
      (∀ o ∈ [list, create], o.parameters = []) ∧
      ∀ o ∈ [get, update, delete], o.parameters = [parameterOf (idParameter type)] := by
  have hne := collectionPath_ne_own_itemPath type
  obtain ⟨list, get, create, update, delete, hall, hlist, hget, hcreate, hupdate, hdelete⟩ :
      ∃ list get create update delete : TypeSpec.Operation,
        operationsFor type = [list, get, create, update, delete] ∧
          (list.path = collectionPath type ∧ list.method = .get) ∧
          (get.path = itemPath type ∧ get.method = .get) ∧
          (create.path = collectionPath type ∧ create.method = .post) ∧
          (update.path = itemPath type ∧ update.method = .patch) ∧
          (delete.path = itemPath type ∧ delete.method = .delete) :=
    ⟨_, _, _, _, _, rfl, ⟨rfl, rfl⟩, ⟨rfl, rfl⟩, ⟨rfl, rfl⟩, ⟨rfl, rfl⟩, ⟨rfl, rfl⟩⟩
  refine ⟨operationOf list, operationOf create, operationOf get, operationOf update,
    operationOf delete, ?_, ?_, ?_, ?_⟩
  · rw [hall]
    simp [writeOperations, Entries.update, Entries.get?_nil, Entries.get?_cons, Entries.put, hlist,
      hget, hcreate, hupdate, hdelete, hne, hne.symm, TypeSpec.Method.name]
  all_goals
    cases hall
    simp [operationOf, collectionOperation, itemOperation, verbs]

theorem path_of_mem_operationsFor {type : String} {o : TypeSpec.Operation}
    (ho : o ∈ operationsFor type) : o.path = collectionPath type ∨ o.path = itemPath type := by
  simp only [operationsFor, List.mem_cons, List.not_mem_nil, or_false] at ho
  rcases ho with rfl | rfl | rfl | rfl | rfl
  · exact Or.inl rfl
  · exact Or.inr rfl
  · exact Or.inl rfl
  · exact Or.inr rfl
  · exact Or.inr rfl

theorem paths_apart {type other : String} (hne : type ≠ other) (hslash : '/' ∉ type.toList)
    (hother : '/' ∉ other.toList) :
    ∀ o ∈ operationsFor type, ∀ p ∈ operationsFor other, o.path ≠ p.path := by
  have hcollection : collectionPath type ≠ collectionPath other := by
    intro h
    exact hne (String.append_right_inj _ |>.1 h)
  have hitem : itemPath type ≠ itemPath other := by
    intro h
    exact hcollection (String.append_left_inj _ |>.1 h)
  intro o ho p hp hequal
  rcases path_of_mem_operationsFor ho with ho | ho <;>
    rcases path_of_mem_operationsFor hp with hp | hp <;> rw [ho, hp] at hequal
  · exact hcollection hequal
  · exact collectionPath_ne_itemPath hslash hequal
  · exact collectionPath_ne_itemPath hother hequal.symm
  · exact hitem hequal

/-! ## Identifiers -/

theorem verb_append_inj {verb verb' name name' : String} (hverb : verb ∈ verbs)
    (hverb' : verb' ∈ verbs) (h : verb ++ name = verb' ++ name') : verb = verb' ∧ name = name' := by
  have hinitials : ∀ v ∈ verbs, ∀ w ∈ verbs, v.toList.head? = w.toList.head? → v = w := by
    decide
  have hsome : ∀ v ∈ verbs, v.toList.head?.isSome = true := by
    decide
  obtain ⟨c, hc⟩ := Option.isSome_iff_exists.1 (hsome verb hverb)
  obtain ⟨d, hd⟩ := Option.isSome_iff_exists.1 (hsome verb' hverb')
  have hhead := congrArg (fun s : String => s.toList.head?) h
  simp only [String.toList_append, List.head?_append, hc, hd, Option.some_or] at hhead
  obtain rfl := hinitials verb hverb verb' hverb' (by rw [hc, hd, hhead])
  exact ⟨rfl, String.append_right_inj _ |>.1 h⟩

theorem disjoint_verbs_iff (name name' : String) :
    List.Disjoint (verbs.map (· ++ name)) (verbs.map (· ++ name')) ↔ name ≠ name' := by
  constructor
  · rintro hdisjoint rfl
    exact hdisjoint (List.mem_map_of_mem List.mem_cons_self)
      (List.mem_map_of_mem List.mem_cons_self)
  · intro hne id hid hid'
    obtain ⟨verb, hverb, rfl⟩ := List.mem_map.1 hid
    obtain ⟨verb', hverb', hequal⟩ := List.mem_map.1 hid'
    exact hne (verb_append_inj hverb hverb' hequal.symm).2

/-- Identifiers of operations are as distinct as the names they end in. -/
theorem nodup_operationIds_iff {ι : Type} (items : List ι) (name : ι → String) :
    (items.flatMap fun i => verbs.map (· ++ name i)).Nodup ↔ (items.map name).Nodup := by
  have hverbs : ∀ i ∈ items, (verbs.map (· ++ name i)).Nodup := by
    intro i _
    apply List.Nodup.map_on _ (by decide)
    intro verb hverb verb' hverb' h
    exact (verb_append_inj hverb hverb' h).1
  rw [List.nodup_flatMap, and_iff_right hverbs, List.Nodup, List.pairwise_map]
  constructor
  · intro h
    exact h.imp fun hdisjoint => (disjoint_verbs_iff _ _).1 hdisjoint
  · intro h
    exact h.imp fun hne => (disjoint_verbs_iff _ _).2 hne

/-! ## The operations of all resources -/

/-- What a table of paths holds about a resource type: two operations on its collection without
parameters, and three on an item that its identifier in the path selects. -/
structure ServesResource (paths : Entries (Entries Operation)) (type : String) : Prop where
  collection : ∃ operations, paths.get? (collectionPath type) = some operations ∧
    operations.keys = ["get", "post"] ∧ ∀ o ∈ operations, o.2.parameters = []
  item : ∃ operations, paths.get? (itemPath type) = some operations ∧
    operations.keys = ["get", "patch", "delete"] ∧
    ∀ o ∈ operations, ∃ p, o.2.parameters = [p] ∧ p.name = "id" ∧ p.location = "path" ∧
      p.required = true

theorem servesResource_of_mem {paths : Entries (Entries Operation)} (hkeys : paths.keys.Nodup)
    {type : String} (hpaths : ∀ path ∈ writeOperations [] (operationsFor type), path ∈ paths) :
    ServesResource paths type := by
  obtain ⟨list, create, get, update, delete, hwritten, -, hcollection, hitem⟩ :=
    exists_paths_operationsFor type
  rw [hwritten] at hpaths
  constructor
  · refine ⟨_, Entries.get?_of_mem_of_nodup hkeys (hpaths _ List.mem_cons_self), rfl, ?_⟩
    intro o ho
    apply hcollection
    simp only [List.mem_cons, List.not_mem_nil, or_false] at ho ⊢
    exact ho.imp (congrArg Prod.snd) (congrArg Prod.snd)
  · refine ⟨_, Entries.get?_of_mem_of_nodup hkeys
      (hpaths _ (List.mem_cons_of_mem _ List.mem_cons_self)), rfl, ?_⟩
    intro o ho
    refine ⟨parameterOf (idParameter type), hitem o.2 ?_, rfl, rfl, rfl⟩
    simp only [List.mem_cons, List.not_mem_nil, or_false] at ho ⊢
    exact ho.imp (congrArg Prod.snd) (Or.imp (congrArg Prod.snd) (congrArg Prod.snd))

section

variable {s : Schema} {options : Options} (hoperations : options.withOperations = true)
  (hdistinct : (s.serializers.map (·.resource.type)).Nodup)
  (hslash : ∀ t ∈ s.serializers, '/' ∉ t.resource.type.toList) (servers : Option (List Server))

include hoperations hdistinct hslash

theorem paths_definitionOfSchema :
    (generate (definitionOfSchema s options).data servers).paths =
      s.serializers.flatMap fun t => writeOperations [] (operationsFor t.resource.type) := by
  have hall : (definitionOfSchema s options).data.namespaces.flatMap (·.operations) =
      s.serializers.flatMap fun t => operationsFor t.resource.type := by
    simp [definitionOfSchema, assemble, hoperations, List.filterMap_map, Function.comp_def,
      List.flatMap_map, SerializerOf.mapKind, ResourceOf.mapKind]
  change OpenApi.pathsOf _ = _
  rw [OpenApi.pathsOf_eq, hall]
  apply OpenApi.writeOperations_flatMap
  rw [List.Nodup, List.pairwise_map] at hdistinct
  apply hdistinct.imp_of_mem
  intro t u ht hu hne
  exact paths_apart hne (hslash t ht) (hslash u hu)

theorem keys_paths_definitionOfSchema :
    (generate (definitionOfSchema s options).data servers).paths.keys =
      s.serializers.flatMap fun t =>
        [collectionPath t.resource.type, itemPath t.resource.type] := by
  rw [paths_definitionOfSchema hoperations hdistinct hslash, Entries.keys, List.map_flatMap]
  apply List.flatMap_congr
  intro t _
  obtain ⟨list, create, get, update, delete, hwritten, -⟩ :=
    exists_paths_operationsFor t.resource.type
  rw [hwritten]
  rfl

theorem nodup_keys_paths :
    (generate (definitionOfSchema s options).data servers).paths.keys.Nodup := by
  rw [keys_paths_definitionOfSchema hoperations hdistinct hslash, List.nodup_flatMap]
  constructor
  · intro t _
    simp [collectionPath_ne_own_itemPath]
  · rw [List.Nodup, List.pairwise_map] at hdistinct
    apply hdistinct.imp_of_mem
    intro t u ht hu hne path hpath hother
    have hpaths : ∀ v : Serializer, path ∈ [collectionPath v.resource.type, itemPath v.resource.type] →
        ∃ o ∈ operationsFor v.resource.type, o.path = path := by
      intro v hv
      simp only [List.mem_cons, List.not_mem_nil, or_false] at hv
      rcases hv with rfl | rfl
      · exact ⟨_, List.mem_cons_self, rfl⟩
      · exact ⟨_, List.mem_cons_of_mem _ List.mem_cons_self, rfl⟩
    obtain ⟨o, ho, hequal⟩ := hpaths t hpath
    obtain ⟨p, hp, hequal'⟩ := hpaths u hother
    exact paths_apart hne (hslash t ht) (hslash u hu) o ho p hp (hequal.trans hequal'.symm)

theorem operationIds_definitionOfSchema :
    (generate (definitionOfSchema s options).data servers).operationIds =
      s.serializers.flatMap fun t => verbs.map (· ++ modelName t) := by
  rw [OpenApi.Document.operationIds, paths_definitionOfSchema hoperations hdistinct hslash,
    List.flatMap_assoc]
  apply List.flatMap_congr
  intro t _
  obtain ⟨list, create, get, update, delete, hwritten, hids, -⟩ :=
    exists_paths_operationsFor t.resource.type
  rw [hwritten]
  exact hids

end

/-- Every operation of every resource is in the document: two paths for each serializer, in order,
with five operations.  Their identifiers are distinct exactly if the model names are. -/
theorem operations_in_paths {s : Schema} {options : Options}
    (hoperations : options.withOperations = true)
    (hdistinct : (s.serializers.map (·.resource.type)).Nodup)
    (hplain : ∀ t ∈ s.serializers, ∀ c ∈ t.resource.type.toList, c ∉ ['/', '{', '}'])
    (servers : Option (List Server)) :
    let document := generate (definitionOfSchema s options).data servers
    document.paths.keys =
        s.serializers.flatMap (fun t =>
          [collectionPath t.resource.type, itemPath t.resource.type]) ∧
      document.paths.keys.Nodup ∧
      (∀ t ∈ s.serializers, ServesResource document.paths t.resource.type) ∧
      document.operationIds.length = 5 * s.serializers.length ∧
      (document.operationIds.Nodup ↔ (s.serializers.map modelName).Nodup) := by
  have hslash : ∀ t ∈ s.serializers, '/' ∉ t.resource.type.toList := by
    intro t ht hmem
    exact hplain t ht '/' hmem List.mem_cons_self
  have hkeys := nodup_keys_paths hoperations hdistinct hslash servers
  have hids := operationIds_definitionOfSchema hoperations hdistinct hslash servers
  refine ⟨keys_paths_definitionOfSchema hoperations hdistinct hslash servers, hkeys, ?_, ?_, ?_⟩
  · intro t ht
    apply servesResource_of_mem hkeys
    intro path hpath
    rw [paths_definitionOfSchema hoperations hdistinct hslash]
    exact List.mem_flatMap.2 ⟨t, ht, hpath⟩
  · rw [hids, List.length_flatMap]
    simp [verbs, Nat.mul_comm]
  · rw [hids]
    exact nodup_operationIds_iff s.serializers modelName

/-- Two resource types with one model name keep their operations, but not the identifiers apart. -/
theorem operations_in_paths_ticketSchema :
    let options := { Options.default with withOperations := true }
    let document := generate (definitionOfSchema (ticketSchema []) options).data none
    options.withOperations = true ∧
      ((ticketSchema []).serializers.map (·.resource.type)).Nodup ∧
      (∀ t ∈ (ticketSchema []).serializers,
        ∀ c ∈ t.resource.type.toList, c ∉ ['/', '{', '}']) ∧
      document.paths.keys =
        ["/support-tickets", "/support-tickets/\x7bid\x7d", "/support_tickets",
          "/support_tickets/\x7bid\x7d"] ∧
      ServesResource document.paths "support-tickets" ∧
      document.operationIds.length = 10 ∧ ¬ document.operationIds.Nodup := by
  intro options document
  have hoperations : options.withOperations = true := rfl
  have hdistinct : ((ticketSchema []).serializers.map (·.resource.type)).Nodup := by decide
  have hplain : ∀ t ∈ (ticketSchema []).serializers,
      ∀ c ∈ t.resource.type.toList, c ∉ ['/', '{', '}'] := by decide
  obtain ⟨hkeys, -, hserves, hlength, hids⟩ :=
    operations_in_paths hoperations hdistinct hplain none
  refine ⟨hoperations, hdistinct, hplain, hkeys, hserves _ List.mem_cons_self, hlength, ?_⟩
  intro hnodup
  exact absurd (hids.1 hnodup) (by decide)

end Conversion

end ApiShapes
