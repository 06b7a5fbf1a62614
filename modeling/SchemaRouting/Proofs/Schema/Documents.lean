import SchemaRouting.Schema.Definition
import SchemaRouting.Schema.Format
import SchemaRouting.Proofs.Json.Writing
import SchemaRouting.Proofs.Rule.Documents

/-!
# Documents that are read as schemas

A document holds a name, a validator or the names of middlewares under each of its keys, and a
route, a path or nothing at all for each of its routes (`IsDocument`). Such a document is read, and
no other is (`exists_read_iff`), and the definition that it writes down has what it gives, each
setting under its own name and the routes in their order (`carriesSchema_of_read`). The text of an
object that is not nested too deep is read as such a document or refused in the field of the
document (`document_read_and_carried`).
-/

set_option autoImplicit false
set_option relaxedAutoImplicit false

namespace SchemaRouting.Schema

open SchemaRouting.Tree (HasValue IsJson SetsOnce)

variable {acceptable : Tree → Prop} {seen seen' : List String} {key : String} {t : Tree}
  {members : List (String × Tree)} {σ : Type}

/-! ### What a document holds -/

/-- What stands under a key: the name of something, a validator, or the names of middlewares. -/
inductive Content
  | name
  | validator
  | names

/-- A tree is what stands under a key, given what validators may be. -/
def Content.Fits (acceptable : Tree → Prop) : Content → Tree → Prop
  | name, t => t = .null ∨ ∃ s, t = .string s
  | validator, t => t = .null ∨ acceptable t
  | names, t => ∃ names : List String, t = .array (names.map .string) .strict

/-- The keys of a route. -/
def routeContents : List (String × Content) :=
  [("id", .name), ("method", .name), ("path", .name), ("headerValidation", .validator),
    ("validation", .validator), ("postValidation", .name), ("loadFactory", .name),
    ("handler", .name), ("postHandler", .name), ("useFactory", .name),
    ("useFactoryMethod", .name), ("middlewares", .names)]

/-- The keys of a schema besides that of its routes. -/
def schemaContents : List (String × Content) :=
  [("id", .name), ("schema", .validator), ("useFactory", .name), ("loadFactory", .name),
    ("path", .name), ("middlewares", .names)]

/-- The members of an object that gives the settings of a route. -/
def IsRoute (acceptable : Tree → Prop) (members : List (String × Tree)) : Prop :=
  ∀ key t, (key, t) ∈ members →
    ∃ content, (key, content) ∈ routeContents ∧ content.Fits acceptable t

/-- What is given for a route: nothing, its path, or its settings. -/
inductive IsEntry (acceptable : Tree → Prop) : Tree → Prop
  | none : IsEntry acceptable .null
  | path (s : String) : IsEntry acceptable (.string s)
  | route {members : List (String × Tree)} : IsRoute acceptable members →
    IsEntry acceptable (.object members .strict)

/-- The members of an object that is the document of a schema. -/
def IsDocument (acceptable : Tree → Prop) (members : List (String × Tree)) : Prop :=
  ∀ key t, (key, t) ∈ members →
    (∃ content, (key, content) ∈ schemaContents ∧ content.Fits acceptable t) ∨
      key = "routes" ∧ ∃ entries, t = .object entries .strict ∧
        ∀ id entry, (id, entry) ∈ entries → IsEntry acceptable entry

/-- A tree stands in the place of a validator of a document. -/
inductive ValidatorPlace (members : List (String × Tree)) : Tree → Prop
  | model {key : String} {t : Tree} : (key, .validator) ∈ schemaContents → (key, t) ∈ members →
    ValidatorPlace members t
  | route {entries settings : List (String × Tree)} {id key : String} {t : Tree} :
    ("routes", .object entries .strict) ∈ members → (id, .object settings .strict) ∈ entries →
    (key, .validator) ∈ routeContents → (key, t) ∈ settings → ValidatorPlace members t

/-- No array stands in the place of a route or of a validator. -/
structure NoArrays (members : List (String × Tree)) : Prop where
  entry : ∀ entries id items ending, ("routes", .object entries .strict) ∈ members →
    (id, .array items ending) ∉ entries
  validator : ∀ t, ValidatorPlace members t → Rule.NoArrays t

section Imp

variable {acceptable' : Tree → Prop}

theorem Content.Fits.imp {content : Content}
    (himp : content = .validator → acceptable t → acceptable' t) (h : content.Fits acceptable t) :
    content.Fits acceptable' t := by
  cases content with
  | name | names => exact h
  | validator => exact Or.imp_right (himp rfl) h

theorem IsDocument.imp (himp : ∀ t, ValidatorPlace members t → acceptable t → acceptable' t)
    (h : IsDocument acceptable members) : IsDocument acceptable' members := by
  intro key t hmem
  rcases h key t hmem with ⟨content, hkey, hfits⟩ | ⟨rfl, entries, rfl, hentries⟩
  · refine .inl ⟨content, hkey, hfits.imp ?_⟩
    rintro rfl
    exact himp t (.model hkey hmem)
  · refine .inr ⟨rfl, entries, rfl, fun id entry hentry ↦ ?_⟩
    cases hentries id entry hentry with
    | none => exact .none
    | path s => exact .path s
    | @route settings hroute =>
      refine .route fun key t hsetting ↦ ?_
      obtain ⟨content, hkey, hfits⟩ := hroute key t hsetting
      refine ⟨content, hkey, hfits.imp ?_⟩
      rintro rfl
      exact himp t (.route hmem hentry hkey hsetting)

end Imp

theorem ValidatorPlace.isJson (h : ValidatorPlace members t)
    (hjson : IsJson (.object members .strict)) :
    t.IsJson := by
  cases h with
  | model _ hmem => exact hjson.members _ t hmem
  | route hroutes hentry _ hmem =>
    exact ((hjson.members _ _ hroutes).members _ _ hentry).members _ t hmem

/-! ### What a definition has of it -/

/-- The name that stands under a key, if one does. -/
def nameIn (key : String) (members : List (String × Tree)) : Option String :=
  (Keyed.find? key members).bind Tree.asText?

/-- The names that stand under a key. -/
def namesIn (key : String) (members : List (String × Tree)) : List String :=
  ((Keyed.find? key members).bind Tree.asTexts?).getD []

/-- A validator is that of the rule that stands under a key, if one does. -/
def CarriesValidator (key : String) (members : List (String × Tree)) (v : Option Validator) :
    Prop :=
  match (Keyed.find? key members).bind Tree.nonNull? with
  | none => v = none
  | some t => ∃ rule, Rule.Carries t rule ∧ v = some rule.validate

/-- A route has the settings that an object gives. -/
structure CarriesRoute (members : List (String × Tree)) (r : RouteDefinition σ) : Prop where
  id : r.id = nameIn "id" members
  method : r.method = nameIn "method" members
  path : r.path = nameIn "path" members
  headerValidation : CarriesValidator "headerValidation" members r.headerValidation
  validation : CarriesValidator "validation" members r.validation
  postValidation : r.postValidation = nameIn "postValidation" members
  loadFactory : r.loadFactory = nameIn "loadFactory" members
  handler : r.handler = nameIn "handler" members
  postHandler : r.postHandler = nameIn "postHandler" members
  useFactory : r.useFactory = nameIn "useFactory" members
  useFactoryMethod : r.useFactoryMethod = nameIn "useFactoryMethod" members
  middlewares : r.middlewares = (namesIn "middlewares" members).map .named

/-- An entry is what is given for a route. A path that is empty gives nothing. -/
inductive CarriesEntry : Tree → EntryDefinition σ → Prop
  | none : CarriesEntry .null .empty
  | path {s : String} : s ≠ "" → CarriesEntry (.string s) (.path s)
  | noPath : CarriesEntry (.string "") .empty
  | route {members : List (String × Tree)} {r : RouteDefinition σ} : CarriesRoute members r →
    CarriesEntry (.object members .strict) (.route r)

/-- A schema has what an object gives, and its routes are those given, in their order. -/
structure CarriesSchema (members : List (String × Tree)) (d : Definition σ) : Prop where
  id : d.id = nameIn "id" members
  model : CarriesValidator "schema" members d.model
  useFactory : d.useFactory = nameIn "useFactory" members
  loadFactory : d.loadFactory = nameIn "loadFactory" members
  path : d.path = nameIn "path" members
  routes : List.Forall₂ (fun (member : String × Tree) (route : String × EntryDefinition σ) ↦
      route.1 = member.1 ∧ CarriesEntry member.2 route.2)
    (((Keyed.find? "routes" members).bind Tree.asMembers?).getD []) d.routes
  middlewares : d.middlewares = (namesIn "middlewares" members).map .named

/-! ### Single members -/

/-- A tree can be read as what stands under a key. -/
def Content.CanRead : Content → Tree → Prop
  | name, t => ∃ v, t.readOptional Tree.readString = .ok v
  | validator, t => ∃ v, t.readOptional Rule.read = .ok v
  | names, t => ∃ v, t.readStrings = .ok v

theorem Content.canRead_iff (ht : t.IsJson) (content : Content) :
    content.CanRead t ↔ content.Fits (fun t ↦ ∃ rule, Rule.read t = .ok rule) t := by
  cases content with
  | name =>
    simp [CanRead, Fits, Tree.exists_readOptional_iff, Tree.readString_eq_ok_iff, or_comm]
  | validator => simp [CanRead, Fits, Tree.exists_readOptional_iff, or_comm]
  | names => cases ht <;> simp [CanRead, Fits, Tree.readStrings_eq_ok_iff, Ending.isRead]

theorem eq_nameIn_of_hasValue {v : Option String}
    (h : HasValue (Tree.readOptional Tree.readString) none v (Keyed.find? key members)) :
    v = nameIn key members := by
  rw [nameIn]
  cases hfind : Keyed.find? key members with
  | none =>
    rw [hfind] at h
    exact h
  | some t =>
    rw [hfind] at h
    rcases Tree.readOptional_eq_ok_iff.mp h with ⟨rfl, rfl⟩ | ⟨-, s, hs, rfl⟩
    · rfl
    · exact (Tree.asText?_of_readString hs).symm

theorem eq_namesIn_of_hasValue {v : List String}
    (h : HasValue Tree.readStrings [] v (Keyed.find? key members)) : v = namesIn key members := by
  rw [namesIn]
  cases hfind : Keyed.find? key members with
  | none =>
    rw [hfind] at h
    exact h
  | some t =>
    rw [hfind] at h
    rw [Option.bind_some, Tree.asTexts?_of_readStrings h]
    rfl

/-- Assumes: no array in the place of a rule. -/
theorem carriesValidator_of_hasValue {rule : Option Rule} (hjson : IsJson (.object members .strict))
    (harrays : ∀ t, (key, t) ∈ members → Rule.NoArrays t)
    (h : HasValue (Tree.readOptional Rule.read) none rule (Keyed.find? key members)) :
    CarriesValidator key members (rule.map Rule.validate) := by
  rw [CarriesValidator]
  cases hfind : Keyed.find? key members with
  | none =>
    rw [hfind] at h
    rw [show rule = none from h]
    rfl
  | some t =>
    rw [hfind] at h
    rcases Tree.readOptional_eq_ok_iff.mp h with ⟨rfl, rfl⟩ | ⟨hne, rule, hread, rfl⟩
    · rfl
    · rw [Option.bind_some, Tree.nonNull?_eq_some_iff.mpr ⟨hne, rfl⟩]
      have harrays' := harrays t (Keyed.mem_of_find? hfind)
      exact ⟨rule, Rule.carries_of_read (hjson.of_find? hfind) harrays' hread, rfl⟩

/-! ### Routes -/

section Routes

variable {r r' : RouteDocument}

/-- What a route becomes when a key sets one of its settings. -/
inductive RouteSettings.Sets (r : RouteDocument) : String → Tree → RouteDocument → Prop
  | id {t : Tree} {v : Option String} : t.readOptional Tree.readString = .ok v →
    Sets r "id" t { r with id := v }
  | method {t : Tree} {v : Option String} : t.readOptional Tree.readString = .ok v →
    Sets r "method" t { r with method := v }
  | path {t : Tree} {v : Option String} : t.readOptional Tree.readString = .ok v →
    Sets r "path" t { r with path := v }
  | headerValidation {t : Tree} {v : Option Rule} : t.readOptional Rule.read = .ok v →
    Sets r "headerValidation" t { r with headerValidation := v }
  | validation {t : Tree} {v : Option Rule} : t.readOptional Rule.read = .ok v →
    Sets r "validation" t { r with validation := v }
  | postValidation {t : Tree} {v : Option String} : t.readOptional Tree.readString = .ok v →
    Sets r "postValidation" t { r with postValidation := v }
  | loadFactory {t : Tree} {v : Option String} : t.readOptional Tree.readString = .ok v →
    Sets r "loadFactory" t { r with loadFactory := v }
  | handler {t : Tree} {v : Option String} : t.readOptional Tree.readString = .ok v →
    Sets r "handler" t { r with handler := v }
  | postHandler {t : Tree} {v : Option String} : t.readOptional Tree.readString = .ok v →
    Sets r "postHandler" t { r with postHandler := v }
  | useFactory {t : Tree} {v : Option String} : t.readOptional Tree.readString = .ok v →
    Sets r "useFactory" t { r with useFactory := v }
  | useFactoryMethod {t : Tree} {v : Option String} : t.readOptional Tree.readString = .ok v →
    Sets r "useFactoryMethod" t { r with useFactoryMethod := v }
  | middlewares {t : Tree} {v : List String} : t.readStrings = .ok v →
    Sets r "middlewares" t { r with middlewares := v }

theorem setsOnce_readRouteMember : SetsOnce readRouteMember RouteSettings.Sets := by
  intro seen r key t seen' r'
  constructor
  · intro h
    obtain ⟨hkey, hnew, h⟩ := Tree.take_eq_ok_iff.mp h
    split at h <;> obtain ⟨next, hnext, h⟩ := bind_eq_ok_iff.mp h <;> cases h <;>
      obtain ⟨v, hv, rfl⟩ := map_eq_ok_iff.mp hnext <;> refine ⟨⟨hnew, rfl⟩, ?_⟩
    case h_12 =>
      have hlast : key = "middlewares" := by simp_all [routeKeys]
      subst hlast
      exact .middlewares hv
    all_goals constructor; exact hv
  · rintro ⟨⟨hnew, rfl⟩, h⟩
    refine Tree.take_eq_ok_iff.mpr ⟨?_, hnew, ?_⟩
    · cases h <;> simp [routeKeys]
    · cases h <;> exact bind_eq_ok_iff.mpr ⟨_, map_eq_ok_iff.mpr ⟨_, ‹_›, rfl⟩, rfl⟩

/-- A tree can be read as what stands under a key of a route. -/
def CanReadRouteMember (key : String) (t : Tree) : Prop :=
  ∃ content, (key, content) ∈ routeContents ∧ content.CanRead t

theorem RouteSettings.Sets.canReadRouteMember (h : r.Sets key t r') :
    CanReadRouteMember key t := by
  cases h
  case headerValidation hv | validation hv =>
    exact ⟨.validator, by simp [routeContents], _, hv⟩
  case middlewares hv => exact ⟨.names, by simp [routeContents], _, hv⟩
  all_goals exact ⟨.name, by simp [routeContents], _, ‹_›⟩

theorem CanReadRouteMember.exists_sets (h : CanReadRouteMember key t) (r : RouteDocument) :
    ∃ r', r.Sets key t r' := by
  obtain ⟨content, hkey, h⟩ := h
  simp only [routeContents, List.mem_cons, List.not_mem_nil, Prod.mk.injEq, or_false] at hkey
  obtain ⟨rfl, rfl⟩ | ⟨rfl, rfl⟩ | ⟨rfl, rfl⟩ | ⟨rfl, rfl⟩ | ⟨rfl, rfl⟩ | ⟨rfl, rfl⟩ |
    ⟨rfl, rfl⟩ | ⟨rfl, rfl⟩ | ⟨rfl, rfl⟩ | ⟨rfl, rfl⟩ | ⟨rfl, rfl⟩ | ⟨rfl, rfl⟩ := hkey <;>
    obtain ⟨_, h⟩ := h <;> exact ⟨_, by constructor; exact h⟩

theorem exists_readRoute_iff (hjson : IsJson (.object members .strict)) :
    (∃ r, readRoute (.object members .strict) = .ok r) ↔
      IsRoute (fun t ↦ ∃ rule, Rule.read t = .ok rule) members := by
  unfold readRoute
  have hslots := setsOnce_readRouteMember.slots RouteSettings.Sets.canReadRouteMember
    CanReadRouteMember.exists_sets
  rw [exists_map_iff, hslots.exists_readRecord_iff rfl hjson.nodup]
  refine forall₃_congr fun key t hmem ↦ exists_congr fun content ↦ ?_
  rw [content.canRead_iff (hjson.members key t hmem)]

theorem carriesRoute_of_readRoute (hjson : IsJson (.object members .strict))
    (harrays : ∀ key t, (key, .validator) ∈ routeContents → (key, t) ∈ members → Rule.NoArrays t)
    (h : readRoute (.object members .strict) = .ok r) :
    CarriesRoute members (r.map Rule.validate Middleware.named : RouteDefinition σ) := by
  obtain ⟨⟨seen, r⟩, hread, rfl⟩ := map_eq_ok_iff.mp h
  constructor <;> dsimp only [RouteSettings.map]
  case headerValidation | validation =>
    refine carriesValidator_of_hasValue hjson (fun t ↦ harrays _ t (by simp [routeContents])) ?_
    refine (setsOnce_readRouteMember.reads fun hsets ↦ ?_).hasValue hread
    cases hsets <;> simp_all
  case middlewares =>
    refine congrArg (List.map Middleware.named) (eq_namesIn_of_hasValue ?_)
    refine (setsOnce_readRouteMember.reads fun hsets ↦ ?_).hasValue hread
    cases hsets <;> simp_all
  all_goals
    refine eq_nameIn_of_hasValue ((setsOnce_readRouteMember.reads fun hsets ↦ ?_).hasValue hread)
    cases hsets <;> simp_all

end Routes

/-! ### Entries -/

section Entries

variable {e : EntryDocument}

/-- Assumes: a tree that is not an array. -/
theorem readEntry_eq_ok_iff (ht : t.IsJson) (harray : ∀ items ending, t ≠ .array items ending) :
    readEntry t = .ok e ↔ t = .null ∧ e = .empty ∨ (∃ s, t = .string s ∧ e = .path s) ∨
      ∃ members r, t = .object members .strict ∧ readRoute t = .ok r ∧ e = .route r := by
  rw [readEntry, ht.strict?_eq]
  cases ht with
  | null | string _ => simp [eq_comm]
  | bool _ | int _ | float _ => simp [readRoute, Tree.readRecord, Except.map]
  | array _ => exact absurd rfl (harray _ _)
  | @object members _ _ =>
    dsimp only
    cases hread : readRoute (.object members .strict) with
    | error problem => simp
    | ok r => simp [eq_comm]

theorem exists_readEntry_iff (ht : t.IsJson) (harray : ∀ items ending, t ≠ .array items ending) :
    (∃ e, readEntry t = .ok e) ↔ IsEntry (fun t ↦ ∃ rule, Rule.read t = .ok rule) t := by
  simp only [readEntry_eq_ok_iff ht harray]
  constructor
  · rintro ⟨e, ⟨rfl, -⟩ | ⟨s, rfl, -⟩ | ⟨members, r, rfl, hread, -⟩⟩
    · exact .none
    · exact .path s
    · exact .route ((exists_readRoute_iff ht).mp ⟨r, hread⟩)
  · rintro (_ | s | hroute)
    · exact ⟨.empty, .inl ⟨rfl, rfl⟩⟩
    · exact ⟨.path s, .inr (.inl ⟨s, rfl, rfl⟩)⟩
    · obtain ⟨r, hread⟩ := (exists_readRoute_iff ht).mpr hroute
      exact ⟨.route r, .inr (.inr ⟨_, r, rfl, hread, rfl⟩)⟩

theorem carriesEntry_ofPath (s : String) :
    CarriesEntry (.string s) (Entry.ofPath s : EntryDefinition σ) := by
  rw [Entry.ofPath]
  by_cases hempty : s = ""
  · subst hempty
    exact .noPath
  · rw [if_neg (by simpa using hempty)]
    exact .path hempty

theorem carriesEntry_of_readEntry (ht : t.IsJson) (harray : ∀ items ending, t ≠ .array items ending)
    (hrules : ∀ settings, t = .object settings .strict → ∀ key t,
      (key, .validator) ∈ routeContents → (key, t) ∈ settings → Rule.NoArrays t)
    (h : readEntry t = .ok e) :
    CarriesEntry t (e.map Rule.validate Middleware.named : EntryDefinition σ) := by
  obtain ⟨rfl, rfl⟩ | ⟨s, rfl, rfl⟩ | ⟨members, r, rfl, hread, rfl⟩ :=
    (readEntry_eq_ok_iff ht harray).mp h
  · exact .none
  · exact carriesEntry_ofPath s
  · exact .route (carriesRoute_of_readRoute ht (hrules members rfl) hread)

end Entries

/-! ### Schemas -/

section Schemas

variable {d d' : Document}

/-- What a document becomes when a key sets one of its settings. -/
inductive Settings.Sets (d : Document) : String → Tree → Document → Prop
  | id {t : Tree} {v : Option String} : t.readOptional Tree.readString = .ok v →
    Sets d "id" t { d with id := v }
  | model {t : Tree} {v : Option Rule} : t.readOptional Rule.read = .ok v →
    Sets d "schema" t { d with model := v }
  | useFactory {t : Tree} {v : Option String} : t.readOptional Tree.readString = .ok v →
    Sets d "useFactory" t { d with useFactory := v }
  | loadFactory {t : Tree} {v : Option String} : t.readOptional Tree.readString = .ok v →
    Sets d "loadFactory" t { d with loadFactory := v }
  | path {t : Tree} {v : Option String} : t.readOptional Tree.readString = .ok v →
    Sets d "path" t { d with path := v }
  | routes {t : Tree} {v : List (String × EntryDocument)} : t.readKeyed readEntry = .ok v →
    Sets d "routes" t { d with routes := v }
  | middlewares {t : Tree} {v : List String} : t.readStrings = .ok v →
    Sets d "middlewares" t { d with middlewares := v }

theorem setsOnce_readMember : SetsOnce readMember Settings.Sets := by
  intro seen d key t seen' d'
  constructor
  · intro h
    obtain ⟨hkey, hnew, h⟩ := Tree.take_eq_ok_iff.mp h
    split at h <;> obtain ⟨next, hnext, h⟩ := bind_eq_ok_iff.mp h <;> cases h <;>
      obtain ⟨v, hv, rfl⟩ := map_eq_ok_iff.mp hnext <;> refine ⟨⟨hnew, rfl⟩, ?_⟩
    case h_7 =>
      have hlast : key = "middlewares" := by simp_all [schemaKeys]
      subst hlast
      exact .middlewares hv
    all_goals constructor; exact hv
  · rintro ⟨⟨hnew, rfl⟩, h⟩
    refine Tree.take_eq_ok_iff.mpr ⟨?_, hnew, ?_⟩
    · cases h <;> simp [schemaKeys]
    · cases h <;> exact bind_eq_ok_iff.mpr ⟨_, map_eq_ok_iff.mpr ⟨_, ‹_›, rfl⟩, rfl⟩

/-- A tree can be read as what stands under a key of a schema. -/
def CanReadMember (key : String) (t : Tree) : Prop :=
  (∃ content, (key, content) ∈ schemaContents ∧ content.CanRead t) ∨
    key = "routes" ∧ ∃ entries, t.readKeyed readEntry = .ok entries

theorem Settings.Sets.canReadMember (h : d.Sets key t d') : CanReadMember key t := by
  cases h
  case routes hv => exact .inr ⟨rfl, _, hv⟩
  case model hv => exact .inl ⟨.validator, by simp [schemaContents], _, hv⟩
  case middlewares hv => exact .inl ⟨.names, by simp [schemaContents], _, hv⟩
  all_goals exact .inl ⟨.name, by simp [schemaContents], _, ‹_›⟩

theorem CanReadMember.exists_sets (h : CanReadMember key t) (d : Document) :
    ∃ d', d.Sets key t d' := by
  rcases h with ⟨content, hkey, h⟩ | ⟨rfl, entries, hread⟩
  · simp only [schemaContents, List.mem_cons, List.not_mem_nil, Prod.mk.injEq, or_false] at hkey
    obtain ⟨rfl, rfl⟩ | ⟨rfl, rfl⟩ | ⟨rfl, rfl⟩ | ⟨rfl, rfl⟩ | ⟨rfl, rfl⟩ | ⟨rfl, rfl⟩ := hkey <;>
      obtain ⟨_, h⟩ := h <;> exact ⟨_, by constructor; exact h⟩
  · exact ⟨_, .routes hread⟩

theorem exists_readRoutes_iff (ht : t.IsJson) (harrays : ∀ entries, t = .object entries .strict →
      ∀ id items ending, (id, .array items ending) ∉ entries) :
    (∃ entries, t.readKeyed readEntry = .ok entries) ↔ ∃ entries, t = .object entries .strict ∧
      ∀ id entry, (id, entry) ∈ entries →
        IsEntry (fun t ↦ ∃ rule, Rule.read t = .ok rule) entry := by
  cases ht with
  | @object entries hnodup hentries =>
    have hentry : ∀ id entry, (id, entry) ∈ entries → ((∃ e, readEntry entry = .ok e) ↔
        IsEntry (fun t ↦ ∃ rule, Rule.read t = .ok rule) entry) := fun id entry hmem ↦
      exists_readEntry_iff (hentries id entry hmem) fun items ending harray ↦
        harrays entries rfl id items ending (harray ▸ hmem)
    rw [Tree.exists_readKeyed_object_iff, forall₃_congr hentry]
    simp
  | null | bool _ | int _ | float _ | string _ | array _ => simp [Tree.readKeyed]

/-- An object is read as a schema exactly if it is the document of one. -/
theorem exists_read_iff (hjson : IsJson (.object members .strict)) (harrays : NoArrays members) :
    (∃ d, read (.object members .strict) = .ok d) ↔
      IsDocument (fun t ↦ ∃ rule, Rule.read t = .ok rule) members := by
  unfold read
  have hslots := setsOnce_readMember.slots Settings.Sets.canReadMember CanReadMember.exists_sets
  rw [exists_map_iff, hslots.exists_readRecord_iff rfl hjson.nodup]
  refine forall₃_congr fun key t hmem ↦ or_congr ?_ (and_congr_right ?_)
  · refine exists_congr fun content ↦ ?_
    rw [content.canRead_iff (hjson.members key t hmem)]
  · rintro rfl
    refine exists_readRoutes_iff (hjson.members _ t hmem) ?_
    rintro entries rfl id items ending
    exact harrays.entry entries id items ending hmem

theorem carriesRoutes_of_hasValue (hjson : IsJson (.object members .strict))
    (harrays : NoArrays members) {routes : List (String × EntryDocument)}
    (h : HasValue (Tree.readKeyed readEntry) [] routes (Keyed.find? "routes" members)) :
    List.Forall₂ (fun (member : String × Tree) (route : String × EntryDefinition σ) ↦
        route.1 = member.1 ∧ CarriesEntry member.2 route.2)
      (((Keyed.find? "routes" members).bind Tree.asMembers?).getD [])
      (routes.map fun route ↦ (route.1, route.2.map Rule.validate .named)) := by
  cases hfind : Keyed.find? "routes" members with
  | none =>
    rw [hfind] at h
    rw [show routes = [] from h]
    exact .nil
  | some t =>
    rw [hfind] at h
    have hmem := Keyed.mem_of_find? hfind
    have ht := hjson.of_find? hfind
    cases ht with
    | @object entries hnodup hentries =>
      have hread := List.forall₂_and_left entries routes |>.mpr
        ⟨fun member hmember ↦ hmember, (Tree.readKeyed_object_eq_ok_iff hnodup).mp h⟩
      rw [List.forall₂_map_right_iff]
      refine hread.imp fun ⟨id, entry⟩ route ⟨hmember, hid, hentry⟩ ↦ ⟨hid, ?_⟩
      refine carriesEntry_of_readEntry (hentries id entry hmember) ?_ ?_ hentry
      · rintro items ending rfl
        exact harrays.entry entries id items ending hmem hmember
      · rintro settings rfl key t hkey ht
        exact harrays.validator t (.route hmem hmember hkey ht)
    | null | bool _ | int _ | float _ | string _ | array _ => cases h

theorem carriesSchema_of_read (hjson : IsJson (.object members .strict))
    (harrays : NoArrays members)
    (h : read (.object members .strict) = .ok d) :
    CarriesSchema members (d.toDefinition : Definition σ) := by
  obtain ⟨⟨seen, d⟩, hread, rfl⟩ := map_eq_ok_iff.mp h
  constructor <;> dsimp only [Settings.toDefinition, Settings.map]
  case model =>
    refine carriesValidator_of_hasValue hjson (fun t hmem ↦
      harrays.validator t (.model (by simp [schemaContents]) hmem)) ?_
    refine (setsOnce_readMember.reads fun hsets ↦ ?_).hasValue hread
    cases hsets <;> simp_all
  case routes =>
    refine carriesRoutes_of_hasValue hjson harrays ?_
    refine (setsOnce_readMember.reads fun hsets ↦ ?_).hasValue hread
    cases hsets <;> simp_all
  case middlewares =>
    refine congrArg (List.map Middleware.named) (eq_namesIn_of_hasValue ?_)
    refine (setsOnce_readMember.reads fun hsets ↦ ?_).hasValue hread
    cases hsets <;> simp_all
  all_goals
    refine eq_nameIn_of_hasValue ((setsOnce_readMember.reads fun hsets ↦ ?_).hasValue hread)
    cases hsets <;> simp_all

/-- An object is read as a schema exactly if it is the document of one with acceptable rules. -/
theorem exists_read_iff_isDocument (hjson : IsJson (.object members .strict))
    (harrays : NoArrays members) :
    (∃ d, read (.object members .strict) = .ok d) ↔ IsDocument Rule.Acceptable members := by
  rw [exists_read_iff hjson harrays]
  have hacceptable : ∀ t, ValidatorPlace members t →
      ((∃ rule, Rule.read t = .ok rule) ↔ Rule.Acceptable t) := fun t hplace ↦
    Rule.exists_read_iff_acceptable (hplace.isJson hjson) (harrays.validator t hplace)
  exact ⟨.imp fun t hplace ↦ (hacceptable t hplace).mp,
    .imp fun t hplace ↦ (hacceptable t hplace).mpr⟩

end Schemas

/-! ### Texts -/

theorem readSchema_eq_ok_iff (hjson : IsJson (.object members .strict))
    (hdepth : (Tree.object members .strict).depth ≤ Json.depthLimit) {text : String}
    (htext : Json.IsText (.object members .strict) text) {d : Document} :
    Format.json.readSchema text = .ok d ↔ read (.object members .strict) = .ok d := by
  have htree : Format.json.tree? text = some (.object members .strict) := by
    rw [Format.tree?, Json.readTree_of_isText hjson hdepth htext]
    rfl
  have hread : Format.json.readText read text = .ok d ↔ read (.object members .strict) = .ok d := by
    rw [Format.readText_eq_ok_iff, htree]
    simp
  rw [← hread, Format.readSchema, Format.readDocument]
  cases Format.json.readText read text <;> simp

theorem message_of_readSchema {text : String} {e : CompileError}
    (h : Format.json.readSchema text = .error e) : ∃ problem, e = .invalidDocument problem ∧
      e.message = "invalid schema definition at 'document': " ++ problem.message := by
  rw [Format.readSchema, Format.readDocument] at h
  cases hread : Format.json.readText read text with
  | ok d =>
    rw [hread] at h
    cases h
  | error problem =>
    rw [hread] at h
    cases h
    exact ⟨problem, rfl, rfl⟩

/-! ### Lamps -/

/-- Lamps are dimmed by whole numbers. -/
def dimRule : Tree := .object [("type", .string "integer")] .strict

def dimMembers : List (String × Tree) :=
  [("validation", dimRule), ("middlewares", .array [.string "audit"] .strict)]

def lampEntries : List (String × Tree) :=
  [("list", .string "/lamps"), ("dim", .object dimMembers .strict)]

/-- Lamps are listed at a path, and dimmed after an audit. -/
def lampMembers : List (String × Tree) :=
  [("id", .string "lamps"), ("routes", .object lampEntries .strict)]

def lampText : String :=
  "\x7b\"id\":\"lamps\",\"routes\":\x7b\"list\":\"/lamps\",\"dim\":\x7b\"validation\":" ++
    "\x7b\"type\":\"integer\"\x7d,\"middlewares\":[\"audit\"]\x7d\x7d\x7d"

theorem isJson_dimRule : dimRule.IsJson := by
  simp [Tree.isJson_object_iff, IsJson.string, Keyed.keys, dimRule]

theorem isJson_lampMembers : IsJson (.object lampMembers .strict) := by
  simp [Tree.isJson_object_iff, Tree.isJson_array_iff, IsJson.string, isJson_dimRule, Keyed.keys,
    lampMembers, lampEntries, dimMembers, or_imp, forall_and]

theorem eq_dimRule_of_validatorPlace (h : ValidatorPlace lampMembers t) : t = dimRule := by
  cases h with
  | @model key _ hkey hmem =>
    have hmodel : key = "schema" := by simpa [schemaContents] using hkey
    subst hmodel
    simp [lampMembers] at hmem
  | @route entries settings id key _ hroutes hentry hkey hmem =>
    obtain rfl : entries = lampEntries := by simpa [lampMembers] using hroutes
    obtain ⟨-, rfl⟩ : id = "dim" ∧ settings = dimMembers := by simpa [lampEntries] using hentry
    have hvalidator : key = "headerValidation" ∨ key = "validation" := by
      simpa [routeContents] using hkey
    rcases hvalidator with rfl | rfl
    · simp [dimMembers] at hmem
    · simpa [dimMembers] using hmem

theorem noArrays_dimRule : Rule.NoArrays dimRule := by
  rintro place (_ | ⟨hinner, -⟩)
  · exact nofun
  · rcases hinner with hitems | ⟨hproperties, -⟩
    · cases hitems
    · cases hproperties

theorem noArrays_lampMembers : NoArrays lampMembers := by
  refine ⟨?_, fun t hplace ↦ ?_⟩
  · intro entries id items ending hroutes
    obtain rfl : entries = lampEntries := by simpa [lampMembers] using hroutes
    simp [lampEntries]
  · rw [eq_dimRule_of_validatorPlace hplace]
    exact noArrays_dimRule

theorem isDocument_lampMembers : IsDocument Rule.Acceptable lampMembers := by
  have hrule : Rule.Acceptable dimRule := by
    rw [← Rule.exists_read_iff_acceptable isJson_dimRule noArrays_dimRule]
    refine ⟨⟨.integer none none, false, none, none⟩, ?_⟩
    rw [dimRule, Rule.read_object_eq_ok_iff, Rule.readMembers_eq_foldlM]
    exact ⟨_, rfl, rfl⟩
  have hdim : IsRoute Rule.Acceptable dimMembers := by
    intro key t hmem
    simp only [dimMembers, List.mem_cons, List.not_mem_nil, or_false, Prod.mk.injEq] at hmem
    obtain ⟨rfl, rfl⟩ | ⟨rfl, rfl⟩ := hmem
    · exact ⟨.validator, by simp [routeContents], .inr hrule⟩
    · exact ⟨.names, by simp [routeContents], ["audit"], rfl⟩
  have hentries : ∀ id entry, (id, entry) ∈ lampEntries → IsEntry Rule.Acceptable entry := by
    intro id entry hentry
    simp only [lampEntries, List.mem_cons, List.not_mem_nil, or_false, Prod.mk.injEq] at hentry
    obtain ⟨-, rfl⟩ | ⟨-, rfl⟩ := hentry
    · exact .path "/lamps"
    · exact .route hdim
  intro key t hmem
  simp only [lampMembers, List.mem_cons, List.not_mem_nil, or_false, Prod.mk.injEq] at hmem
  obtain ⟨rfl, rfl⟩ | ⟨rfl, rfl⟩ := hmem
  · exact .inl ⟨.name, by simp [schemaContents], .inr ⟨"lamps", rfl⟩⟩
  · exact .inr ⟨rfl, lampEntries, rfl, hentries⟩

theorem isText_lampText : Json.IsText (.object lampMembers .strict) lampText := by
  have hlegible : Json.Legible (.object lampMembers .strict) := by
    simp [Json.legible_object_iff, Json.legible_array_iff, Json.Legible.string, lampMembers,
      lampEntries, dimMembers, dimRule, or_imp, forall_and]
  exact Json.isText_writeTree hlegible

/-! ### The main theorem -/

/-- The text of an object is accepted exactly if the object is the document of a schema, any other
text is refused in the field of the document, and the definition of an accepted one has all that is
given for it, with its routes in their order.

Assumes: an object of different keys at every level that is not nested deeper than is read, with no
array in the place of a route or of a validator, and a text of it. -/
theorem document_read_and_carried (hjson : IsJson (.object members .strict))
    (hdepth : (Tree.object members .strict).depth ≤ Json.depthLimit) (harrays : NoArrays members)
    {text : String} (htext : Json.IsText (.object members .strict) text) :
    ((∃ d, Format.json.readSchema text = .ok d) ↔ IsDocument Rule.Acceptable members) ∧
      (∀ e, Format.json.readSchema text = .error e → ∃ problem, e = .invalidDocument problem ∧
        e.message = "invalid schema definition at 'document': " ++ problem.message) ∧
      ∀ d, Format.json.readSchema text = .ok d →
        CarriesSchema members (d.toDefinition : Definition σ) := by
  simp only [readSchema_eq_ok_iff hjson hdepth htext]
  exact ⟨exists_read_iff_isDocument hjson harrays, fun _ ↦ message_of_readSchema,
    fun _ ↦ carriesSchema_of_read hjson harrays⟩

theorem lamps_read_and_carried : IsJson (.object lampMembers .strict) ∧
    (Tree.object lampMembers .strict).depth ≤ Json.depthLimit ∧ NoArrays lampMembers ∧
    Json.IsText (.object lampMembers .strict) lampText ∧
    ∃ d, Format.json.readSchema lampText = .ok d ∧
      CarriesSchema lampMembers (d.toDefinition : Definition Unit) := by
  have hdepth : (Tree.object lampMembers .strict).depth ≤ Json.depthLimit := by decide
  obtain ⟨hread, -, hcarried⟩ := document_read_and_carried (σ := Unit) isJson_lampMembers hdepth
    noArrays_lampMembers isText_lampText
  obtain ⟨d, hd⟩ := hread.mpr isDocument_lampMembers
  exact ⟨isJson_lampMembers, hdepth, noArrays_lampMembers, isText_lampText, d, hd, hcarried d hd⟩

end SchemaRouting.Schema
