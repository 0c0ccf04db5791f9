import ApiShapes.OpenApi.References
import ApiShapes.Proofs.Document.DumpedFields
import ApiShapes.Proofs.Text.Occurrence
import ApiShapes.Proofs.TypeSpec.NamespaceMerge
import Mathlib.Tactic

/-!
# The references of a document

The walk over a dumped document finds the references of its schemas and nothing else, whatever the
names of properties, paths and components are: only a text counts as a reference, and what stands
under such a name is a record.  The references that point to no component are kept once each, in the
order of first occurrence.
-/

namespace ApiShapes.OpenApi

open Text

/-! ## References that point to no component -/

theorem sameKey_text_iff (s : String) (v : Value) :
    Value.sameKey (.text s) v = true ↔ v = .text s := by
  cases v with
  | text t =>
      simp only [Value.sameKey, beq_iff_eq, Value.text.injEq]
      exact eq_comm
  | _ => simp [Value.sameKey, Value.wholeNumber?]

theorem unresolvedAmong_eq (known : List Value) (refs : List String) :
    unresolvedAmong known refs =
      (refs.filter fun ref => !known.any (Value.sameKey (.text (targetName ref)))).eraseDups := by
  rw [unresolvedAmong, TypeSpec.foldl_insert_eq_eraseDups, List.nil_append]
  exact congrArg List.eraseDups (List.filter_eq_self.2 fun ref _ => rfl)

theorem unresolvedAmong_texts (names refs : List String) :
    unresolvedAmong (names.map .text) refs =
      (refs.filter fun ref => targetName ref ∉ names).eraseDups := by
  rw [unresolvedAmong_eq]
  refine congrArg List.eraseDups (List.filter_congr fun ref _ => ?_)
  rw [Bool.eq_iff_iff, Bool.not_eq_true', ← Bool.not_eq_true]
  simp [sameKey_text_iff]

theorem targetName_reference (name : String) : targetName (reference name) = name := by
  have hrest : afterPrefix? referencePrefix.toList (reference name).toList = some name.toList :=
    afterPrefix?_eq_some_iff.2 String.toList_append
  unfold targetName
  rw [hrest]
  exact String.ofList_toList

/-! ## Walking over records -/

theorem referencesInItems_eq_flatMap (items : List Value) :
    referencesInItems items = items.flatMap referencesIn := by
  induction items with
  | nil => rfl
  | cons v rest ih => rw [referencesInItems, ih, List.flatMap_cons]

@[simp] theorem referencesIn_list (items : List Value) :
    referencesIn (.list items) = items.flatMap referencesIn := by
  rw [referencesIn, referencesInItems_eq_flatMap]

@[simp] theorem referencesIn_text (t : String) : referencesIn (.text t) = [] := by
  rw [referencesIn] <;> simp

@[simp] theorem referencesIn_bool (b : Bool) : referencesIn (.bool b) = [] := by
  rw [referencesIn] <;> simp

@[simp] theorem referencesIn_null : referencesIn .null = [] := by
  rw [referencesIn] <;> simp

@[simp] theorem referencesIn_ofText? (t : Option String) : referencesIn (.ofText? t) = [] := by
  cases t with
  | none => exact referencesIn_null
  | some t => exact referencesIn_text t

@[simp] theorem referencesIn_ofTexts (texts : List String) :
    referencesIn (.ofTexts texts) = [] := by
  simp [Value.ofTexts, List.flatMap_map]

@[simp] theorem referencesIn_dumpNonempty (items : List Value) :
    referencesIn (dumpNonempty items) = items.flatMap referencesIn := by
  cases items with
  | nil => simp [dumpNonempty]
  | cons v rest => simp [dumpNonempty]

theorem referencesInEntries_cons {k v : Value} (h : k ≠ .text "$ref" ∨ ∀ t, v ≠ .text t)
    (rest : List (Value × Value)) :
    referencesInEntries ((k, v) :: rest) = referencesIn v ++ referencesInEntries rest := by
  rw [referencesInEntries]
  rintro t rfl rfl
  rcases h with h | h
  · exact h rfl
  · exact h t rfl

@[simp] theorem referencesIn_ofFields_nil : referencesIn (.ofFields []) = [] := by
  simp [Value.ofFields, referencesIn, referencesInEntries]

theorem referencesIn_ofFields_cons {k : String} {v : Value} (h : k ≠ "$ref" ∨ ∀ t, v ≠ .text t)
    (rest : Entries Value) :
    referencesIn (.ofFields ((k, v) :: rest)) =
      referencesIn v ++ referencesIn (.ofFields rest) := by
  have hentry : Value.text k ≠ .text "$ref" ∨ ∀ t, v ≠ .text t :=
    h.imp_left fun hk htext => hk (Value.text.inj htext)
  simp only [Value.ofFields, referencesIn, List.map_cons]
  rw [referencesInEntries_cons hentry]

/-- A reference that is not set is no reference. -/
theorem referencesIn_ofFields_ref (ref : Option String) (rest : Entries Value) :
    referencesIn (.ofFields (("$ref", .ofText? ref) :: rest)) =
      ref.toList ++ referencesIn (.ofFields rest) := by
  cases ref with
  | none => exact referencesIn_ofFields_cons (Or.inr (by simp [Value.ofText?])) rest
  | some target => simp [Value.ofFields, Value.ofText?, referencesIn, referencesInEntries]

theorem referencesInEntries_cons_eq_append (entry : Value × Value) (rest : List (Value × Value)) :
    referencesInEntries (entry :: rest) =
      referencesInEntries [entry] ++ referencesInEntries rest := by
  obtain ⟨k, v⟩ := entry
  by_cases hplain : k ≠ .text "$ref" ∨ ∀ t, v ≠ .text t
  · rw [referencesInEntries_cons hplain, referencesInEntries_cons hplain, referencesInEntries,
      List.append_nil]
  · obtain ⟨rfl, t, rfl⟩ : k = .text "$ref" ∧ ∃ t, v = .text t := by
      simpa [not_or] using hplain
    simp [referencesInEntries]

/-- Fields that are left out refer to nothing. -/
@[simp] theorem referencesIn_dumpFields (unset : Unset) (fields : Entries Value) :
    referencesIn (dumpFields unset fields) = referencesIn (.ofFields fields) := by
  cases unset with
  | shown => rfl
  | hidden =>
      change referencesIn (.ofFields (fields.filter fun field => !field.2.isNull)) = _
      simp only [Value.ofFields, referencesIn]
      induction fields with
      | nil => rfl
      | cons field rest ih =>
          obtain ⟨k, v⟩ := field
          rw [List.map_cons, referencesInEntries_cons_eq_append, ← ih]
          cases v with
          | null =>
              -- Under any key, `$ref` included, a null refers to nothing.
              rw [referencesInEntries_cons (Or.inr (by simp)), referencesIn_null,
                referencesInEntries]
              rfl
          | _ => exact referencesInEntries_cons_eq_append _ _

/-- A record under any key is walked like any other entry. -/
theorem referencesIn_dumpEntries {α : Type} {dump : α → Value} (hdump : ∀ a t, dump a ≠ .text t)
    (entries : Entries α) :
    referencesIn (dumpEntries dump entries) = entries.flatMap fun e => referencesIn (dump e.2) := by
  unfold dumpEntries
  induction entries with
  | nil => exact referencesIn_ofFields_nil
  | cons entry rest ih =>
      rw [List.map_cons, referencesIn_ofFields_cons (Or.inr (hdump entry.2)), ih,
        List.flatMap_cons]

/-! ## The parts of a document -/

def Schema.references : Schema → List String
  | ⟨ref, _, _, _, _, some items, _⟩ => ref.toList ++ items.references
  | ⟨ref, _, _, _, _, none, _⟩ => ref.toList

def Content.references (content : Content) : List String :=
  content.flatMap (·.2.references)

/-- The references of parameters, body and responses. -/
def Operation.references (o : Operation) : List String :=
  o.parameters.flatMap (·.schema.references) ++
    ((o.requestBody.map fun b => Content.references b.content).getD [] ++
      o.responses.flatMap fun r => (r.2.content.map Content.references).getD [])

def ObjectSchema.references (s : ObjectSchema) : List String :=
  s.properties.flatMap (·.2.references)

/-- The references of the paths, then those of the components. -/
def Document.references (d : Document) : List String :=
  d.paths.flatMap (fun path => path.2.flatMap (·.2.references)) ++
    d.schemas.flatMap (·.2.references)

theorem referencesIn_dumpWith (s : Schema) (items : Value) :
    referencesIn (s.dumpWith items) = s.ref.toList ++ referencesIn items := by
  have henum : referencesIn ((s.enum.map Value.ofTexts).getD .null) = [] := by
    cases s.enum <;> simp
  have hnullable : referencesIn (if s.nullable then .bool true else .null) = [] := by
    cases s.nullable <;> simp
  unfold Schema.dumpWith
  rw [referencesIn_dumpFields, referencesIn_ofFields_ref]
  simp [referencesIn_ofFields_cons, henum, hnullable]

theorem referencesIn_dump_schema (s : Schema) : referencesIn s.dump = s.references := by
  induction s using Schema.references.induct with
  | case1 ref type format description enum items nullable ih =>
      rw [Schema.dump, referencesIn_dumpWith, ih, Schema.references]
  | case2 ref type format description enum nullable =>
      rw [Schema.dump, referencesIn_dumpWith, referencesIn_null, List.append_nil,
        Schema.references]

theorem dump_schema_ne_text (s : Schema) (t : String) : s.dump ≠ .text t := by
  obtain ⟨ref, type, format, description, enum, items, nullable⟩ := s
  cases items with
  | none => exact fun h => by cases h
  | some items => exact fun h => by cases h

theorem referencesIn_dumpContent (content : Content) :
    referencesIn (dumpContent content) = content.references := by
  unfold dumpContent
  rw [referencesIn_dumpEntries fun _ _ h => by cases h]
  simp [referencesIn_ofFields_cons, referencesIn_dump_schema, Content.references]

theorem referencesIn_dump_operation (o : Operation) : referencesIn o.dump = o.references := by
  have hparameter : ∀ p : Parameter, referencesIn p.dump = p.schema.references := by
    intro p
    unfold Parameter.dump
    simp [referencesIn_ofFields_cons, referencesIn_dump_schema]
  have hbody : referencesIn ((o.requestBody.map (·.dump)).getD .null) =
      (o.requestBody.map fun b => Content.references b.content).getD [] := by
    cases o.requestBody with
    | none => exact referencesIn_null
    | some b =>
        change referencesIn b.dump = b.content.references
        unfold RequestBody.dump
        simp [referencesIn_ofFields_cons, referencesIn_dumpContent]
  have hresponse : ∀ r : Response, referencesIn r.dump =
      (r.content.map Content.references).getD [] := by
    intro r
    unfold Response.dump
    cases hcontent : r.content with
    | none => simp [referencesIn_ofFields_cons]
    | some content => simp [referencesIn_ofFields_cons, referencesIn_dumpContent]
  have hresponses : referencesIn (dumpEntries Response.dump o.responses) =
      o.responses.flatMap fun r => (r.2.content.map Content.references).getD [] := by
    rw [referencesIn_dumpEntries fun _ _ h => by cases h]
    simp only [hresponse]
  unfold Operation.dump
  simp [referencesIn_ofFields_cons, List.flatMap_map, hparameter, hbody, hresponses,
    Operation.references]

theorem referencesIn_dump_component (s : ObjectSchema) :
    referencesIn s.dump = s.references := by
  have hproperties : referencesIn (dumpEntries Schema.dump s.properties) = s.references := by
    rw [referencesIn_dumpEntries dump_schema_ne_text]
    simp only [referencesIn_dump_schema, ObjectSchema.references]
  unfold ObjectSchema.dump
  simp [referencesIn_ofFields_cons, List.flatMap_map, hproperties]

theorem referencesIn_dump_document (d : Document) : referencesIn d.dump = d.references := by
  have hpath : ∀ (path : Entries Operation), referencesIn (dumpEntries Operation.dump path) =
      path.flatMap (·.2.references) := by
    intro path
    rw [referencesIn_dumpEntries fun _ _ h => by cases h]
    simp only [referencesIn_dump_operation]
  have hpaths : referencesIn (dumpEntries (dumpEntries Operation.dump) d.paths) =
      d.paths.flatMap fun path => path.2.flatMap (·.2.references) := by
    rw [referencesIn_dumpEntries fun _ _ h => by cases h]
    simp only [hpath]
  have hschemas : referencesIn (dumpEntries ObjectSchema.dump d.schemas) =
      d.schemas.flatMap (·.2.references) := by
    rw [referencesIn_dumpEntries fun _ _ h => by cases h]
    simp only [referencesIn_dump_component]
  have hinfo : referencesIn d.info.dump = [] := by
    unfold Info.dump
    simp [referencesIn_ofFields_cons]
  have hserver : ∀ server : Server, referencesIn server.dump = [] := by
    intro server
    unfold Server.dump
    simp [referencesIn_ofFields_cons]
  unfold Document.dump
  simp [referencesIn_ofFields_cons, List.flatMap_map, hinfo, hserver, hpaths, hschemas,
    Document.references]

/-- The references of a document to components that it lacks, each once. -/
theorem unresolvedReferences_eq (d : Document) :
    d.unresolvedReferences =
      (d.references.filter fun ref => targetName ref ∉ d.schemas.keys).eraseDups := by
  unfold Document.unresolvedReferences
  rw [unresolvedAmong_texts, referencesIn_dump_document]

end ApiShapes.OpenApi
