import SchemaRouting.Proofs.Json.Records
import SchemaRouting.Proofs.Schema.Wording

/-!
# Ways of writing a route in a document

In a document a route that has only a path is the text of that path or an object with nothing else
in it, and one that has nothing at all is an empty text, an empty object or null (`WritesPath`,
`writesPath_string`, `writesPath_object`). A document is reworded by writing any of its routes in
another of these ways (`DocumentReworded`). It is read where the document is, as the same schema
reworded, and with the same problem otherwise (`agree_read`), so the routes of both are compiled
alike. With the ways in which a definition is reworded that is the main theorem
(`reworded_compile_alike`).
-/

set_option autoImplicit false
set_option relaxedAutoImplicit false

namespace SchemaRouting

namespace Tree

variable {α : Type} {R : Tree → Tree → Prop} {S : α → α → Prop} {read : Read α}
  {members members' : List (String × Tree)}

/-- Members under free keys whose values are read alike. -/
theorem agree_readKeyed (hread : ∀ t t', R t t' → Agree S Eq (read t) (read t'))
    (h : Keyed.Alongside R members members') (ending : Ending) :
    Agree (Keyed.Alongside S) Eq (readKeyed read (.object members ending))
      (readKeyed read (.object members' ending)) := by
  refine Agree.bind (R := Keyed.Alongside S) (agree_mapM h ?_) fun entries entries' hentries ↦ ?_
  · rintro ⟨key, t⟩ ⟨key', t'⟩ ⟨hkey, ht⟩
    exact (hread t t' ht).bind fun _ _ ha ↦ .ok ⟨hkey, ha⟩
  · split_ifs
    · exact .ok hentries.ofList
    · exact .error rfl

/-- A key is known and was not seen before for the one draft as for the other. -/
theorem agree_take {δ δ' : Type} {R : δ → δ' → Prop} {keys seen : List String} {key : String}
    {rest : List String → Except ReadError δ} {rest' : List String → Except ReadError δ'}
    (h : ∀ seen', Agree R Eq (rest seen') (rest' seen')) :
    Agree R Eq
      (do
        if !keys.contains key then throw (ReadError.unknownField key)
        let seen ← once seen key
        rest seen)
      (do
        if !keys.contains key then throw (ReadError.unknownField key)
        let seen ← once seen key
        rest' seen) := by
  cases hknown : keys.contains key with
  | false => exact .error rfl
  | true =>
    cases honce : once seen key with
    | error e => exact .error rfl
    | ok seen' => exact h seen'

end Tree

namespace Schema

variable {σ : Type} {p key : String} {t t' : Tree} {members members' : List (String × Tree)}

/-! ### Entries of a document that write a path -/

/-- What stands for a route in a document is read as an entry that gives its path. -/
def WritesPath (t : Tree) (p : String) : Prop :=
  ∃ entry, readEntry t = .ok entry ∧ entry.GivesPath p

theorem writesPath_string (p : String) : WritesPath (.string p) p :=
  ⟨.path p, rfl, .path p⟩

theorem writesPath_null : WritesPath .null "" :=
  ⟨.empty, rfl, .empty⟩

theorem writesPath_object (p : String) {ending : Ending} (h : ending.isRead = true) :
    WritesPath (.object [("path", .string p)] ending) p := by
  refine ⟨_, ?_, .settings p⟩
  rw [readEntry, Tree.strict?, if_pos h]
  rfl

theorem writesPath_empty {ending : Ending} (h : ending.isRead = true) :
    WritesPath (.object [] ending) "" := by
  refine ⟨_, ?_, .noSettings⟩
  rw [readEntry, Tree.strict?, if_pos h]
  rfl

/-- What stands for a route is the same, or writes the same path in another way. -/
inductive EntryReworded : Tree → Tree → Prop
  | same (t : Tree) : EntryReworded t t
  | path {t t' : Tree} {p : String} : WritesPath t p → WritesPath t' p → EntryReworded t t'

/-- A member of a document is the same, or is that of its routes with any of them reworded. -/
inductive MemberReworded : String × Tree → String × Tree → Prop
  | same (member : String × Tree) : MemberReworded member member
  | routes {entries entries' : List (String × Tree)} (ending : Ending) :
    Keyed.Alongside EntryReworded entries entries' →
    MemberReworded ("routes", .object entries ending) ("routes", .object entries' ending)

/-- A document with any of its routes written in another way. One that is an array has its members
in the order of their keys. -/
inductive DocumentReworded : Tree → Tree → Prop
  | same (t : Tree) : DocumentReworded t t
  | object {members members' : List (String × Tree)} (ending : Ending) :
    List.Forall₂ MemberReworded members members' →
    DocumentReworded (.object members ending) (.object members' ending)
  | array {items items' : List Tree} (ending : Ending) : items'.length = items.length →
    List.Forall₂ MemberReworded (schemaKeys.zip items) (schemaKeys.zip items') →
    DocumentReworded (.array items ending) (.array items' ending)

/-- A catalog of documents with any of them reworded. -/
inductive CatalogReworded : Tree → Tree → Prop
  | object {members members' : List (String × Tree)} (ending : Ending) :
    Keyed.Alongside DocumentReworded members members' →
    CatalogReworded (.object members ending) (.object members' ending)

/-! ### Reading a reworded document -/

theorem agree_readEntry (h : EntryReworded t t') :
    Agree Entry.Reworded Eq (readEntry t) (readEntry t') := by
  cases h with
  | same => exact agree_self .same (fun _ ↦ rfl) _
  | path hwrites hwrites' =>
    obtain ⟨entry, hread, hgives⟩ := hwrites
    obtain ⟨entry', hread', hgives'⟩ := hwrites'
    rw [hread, hread']
    exact .ok (.path hgives hgives')

/-- A member that is reworded has the same key. It is that of the routes, which are read alike, or
the same. -/
theorem MemberReworded.read {member member' : String × Tree} (h : MemberReworded member member') :
    member'.1 = member.1 ∧
      Agree (Keyed.Alongside Entry.Reworded) Eq (member.2.readKeyed readEntry)
        (member'.2.readKeyed readEntry) ∧
      (member.1 ≠ "routes" → member'.2 = member.2) := by
  cases h with
  | same =>
    refine ⟨rfl, agree_self (fun _ ↦ ?_) (fun _ ↦ rfl) _, fun _ ↦ rfl⟩
    exact List.forall₂_same.mpr fun _ _ ↦ ⟨rfl, .same _⟩
  | routes ending hentries =>
    refine ⟨rfl, ?_, fun hne ↦ absurd rfl hne⟩
    exact Tree.agree_readKeyed (R := EntryReworded) (fun _ _ ↦ agree_readEntry) hentries ending

/-- The same keys were seen, and what was taken so far is the same but for its wording. -/
def DraftReworded (draft draft' : List String × Document) : Prop :=
  draft'.1 = draft.1 ∧ draft.2.Reworded draft'.2

theorem agree_readMember {draft draft' : List String × Document} (h : DraftReworded draft draft')
    {member member' : String × Tree} (hmember : MemberReworded member member') :
    Agree DraftReworded Eq (readMember draft member.1 member.2)
      (readMember draft' member'.1 member'.2) := by
  obtain ⟨seen, d⟩ := draft
  obtain ⟨seen', d'⟩ := draft'
  obtain ⟨hseen, hd⟩ := h
  cases hseen
  obtain ⟨key, t⟩ := member
  obtain ⟨key', t'⟩ := member'
  obtain ⟨hkey, hroutes, hsame⟩ := hmember.read
  cases hkey
  refine Tree.agree_take fun seen' ↦ ?_
  dsimp only at hroutes hsame ⊢
  split <;> refine Agree.bind (R := Settings.Reworded) ?_ fun _ _ hnext ↦ .ok ⟨rfl, hnext⟩
  case h_6 => exact hroutes.map fun _ _ hread ↦ { hd with routes := hread }
  all_goals
    obtain rfl := hsame (by first | decide | assumption)
    refine (agree_self (R := Eq) (fun _ ↦ rfl) (fun _ ↦ rfl) _).map ?_
    rintro v _ rfl
  · exact { hd with id := rfl }
  · exact { hd with model := rfl }
  · exact { hd with useFactory := rfl }
  · exact { hd with loadFactory := rfl }
  · exact { hd with path := rfl }
  · exact { hd with middlewares := rfl }

/-- A reworded document is read where the document is, as the same schema reworded. -/
theorem agree_read (h : DocumentReworded t t') :
    Agree Settings.Reworded Eq (read t) (read t') := by
  have hstart : DraftReworded ([], .empty) ([], .empty) := ⟨rfl, .refl _⟩
  cases h with
  | same => exact agree_self .refl (fun _ ↦ rfl) _
  | object ending hmembers =>
    refine Agree.map (R := DraftReworded) ?_ fun _ _ hdraft ↦ hdraft.2
    refine (agree_foldlM hmembers ?_ hstart).bind fun _ _ hdraft ↦ ?_
    · exact fun _ _ _ _ hdraft hmember ↦ agree_readMember hdraft hmember
    · split_ifs
      · exact .ok hdraft
      · exact .error rfl
  | array ending hlength hitems =>
    refine Agree.map (R := DraftReworded) ?_ fun _ _ hdraft ↦ hdraft.2
    refine (agree_foldlM hitems ?_ hstart).bind fun _ _ hdraft ↦ ?_
    · exact fun _ _ _ _ hdraft hmember ↦ agree_readMember hdraft hmember
    · rw [hlength]
      cases ending with
      | strict =>
        dsimp only
        split_ifs
        · exact .ok hdraft
        · exact .error rfl
      | lenient => exact .ok hdraft
      | missing => exact .error rfl
      | tooDeep => exact .error rfl

theorem agree_readCatalog (h : CatalogReworded t t') :
    Agree (Keyed.Alongside Settings.Reworded) Eq (readCatalog t) (readCatalog t') := by
  cases h with
  | object ending hmembers =>
    exact Tree.agree_readKeyed (R := DocumentReworded) (fun _ _ ↦ agree_read) hmembers ending

/-! ### The routes of a reworded document -/

theorem Format.agree_readDocument {α : Type} {S : α → α → Prop} {format format' : Format}
    {text text' : String} {read : Tree.Read α} (htext : format.tree? text = some t)
    (htext' : format'.tree? text' = some t') (h : Agree S Eq (read t) (read t')) :
    Agree S Eq (format.readDocument read text) (format'.readDocument read text') := by
  rw [readDocument, readDocument, readText_of_tree? htext, readText_of_tree? htext']
  generalize read t = x, read t' = y at h
  cases h with
  | ok hab => exact .ok hab
  | error he => exact .error (congrArg _ he)

theorem Settings.Reworded.toDefinition {d d' : Document} (h : d.Reworded d') :
    (d.toDefinition : Definition σ).Reworded d'.toDefinition :=
  h.map _ _

theorem reworded_toCatalogDefinition {c c' : CatalogDocument}
    (h : Keyed.Alongside Settings.Reworded c c') :
    Keyed.Alongside Settings.Reworded (toCatalogDefinition c : CatalogDefinition σ)
      (toCatalogDefinition c') := by
  rw [toCatalogDefinition, toCatalogDefinition, Keyed.Alongside, List.forall₂_map_left_iff,
    List.forall₂_map_right_iff]
  exact h.imp fun _ _ hsame ↦ ⟨hsame.1, hsame.2.toDefinition⟩

/-- Two sources from which every route is compiled alike: to the same route, or with the same error
up to the place of a path that is not relative. -/
def CompileAlike (c : Compiler σ) (source source' : Source σ) : Prop :=
  ∀ schemaId routeId, Agree Eq SameFault (c.compile source schemaId routeId)
    (c.compile source' schemaId routeId)

/-- The ways of writing a route may be exchanged: a bare path, and settings with nothing but that
path; an empty path, no settings, and an empty entry. Whichever of its routes are written in another
of these ways, every route of a schema is compiled to the same route, with the same kind, method,
pattern, settings and steps, or fails with the same error, but that the place told for a path which
is not relative may be that of the route or that of its setting. It is so for a definition, in a
catalog or not, and when a route is set; and in a document, in one text or another, where a route
may be written as a text, an object or null, and which is refused with the same problem if it
cannot be read. -/
theorem reworded_compile_alike (c : Compiler σ) :
    (∀ source source' : Source σ, source.Reworded source' → CompileAlike c source source') ∧
    (∀ (d : Definition σ) (id p : String) (entry entry' : EntryDefinition σ), entry.GivesPath p →
      entry'.GivesPath p →
      CompileAlike c (.single (d.withRoute id entry)) (.single (d.withRoute id entry'))) ∧
    (∀ p : String, (Entry.ofPath p : EntryDefinition σ).GivesPath p) ∧
    (∀ (format format' : Format) (text text' : String) (t t' : Tree),
      format.tree? text = some t → format'.tree? text' = some t' → DocumentReworded t t' →
      Agree (fun d d' ↦ CompileAlike c (.single d.toDefinition) (.single d'.toDefinition)) Eq
        (format.readSchema text) (format'.readSchema text')) ∧
    (∀ (format format' : Format) (text text' : String) (t t' : Tree),
      format.tree? text = some t → format'.tree? text' = some t' → CatalogReworded t t' →
      Agree (fun d d' ↦ CompileAlike c (.catalog (toCatalogDefinition d))
        (.catalog (toCatalogDefinition d'))) Eq
        (format.readCatalog text) (format'.readCatalog text')) ∧
    ∀ p : String, WritesPath (.string p) p ∧ WritesPath .null "" ∧
      ∀ ending : Ending, ending.isRead = true →
        WritesPath (.object [("path", .string p)] ending) p ∧
          WritesPath (.object [] ending) "" := by
  have hsources : ∀ source source' : Source σ, source.Reworded source' →
      CompileAlike c source source' :=
    fun _ _ h ↦ agree_compile c h
  refine ⟨hsources, fun d id p entry entry' hgives hgives' ↦ ?_, Entry.givesPath_ofPath,
    fun format format' text text' t t' htext htext' h ↦ ?_,
    fun format format' text text' t t' htext htext' h ↦ ?_, fun p ↦ ?_⟩
  · exact hsources _ _ (.single (Settings.reworded_withRoute hgives hgives' d id))
  · refine (Format.agree_readDocument htext htext' (agree_read h)).imp fun d d' hd ↦ ?_
    exact hsources _ _ (.single hd.toDefinition)
  · refine (Format.agree_readDocument htext htext' (agree_readCatalog h)).imp fun d d' hd ↦ ?_
    exact hsources _ _ (.catalog (reworded_toCatalogDefinition hd))
  · exact ⟨writesPath_string p, writesPath_null,
      fun ending hread ↦ ⟨writesPath_object p hread, writesPath_empty hread⟩⟩

/-- The path of a lamp that is not relative is told by the place of its route where it stands alone,
and by that of its setting in an object. -/
example (c : Compiler Unit) :
    let d : Definition Unit := .empty
    c.compile (.single (d.withRoute "get" (.ofPath "a lamp"))) "lamps" "get" =
        .error (notRelative "routes.get" "a lamp") ∧
      c.compile (.single (d.withRoute "get"
        (.route { (RouteSettings.empty : RouteDefinition Unit) with path := some "a lamp" })))
        "lamps" "get" =
        .error (notRelative "routes.get.path" "a lamp") :=
  ⟨rfl, rfl⟩

end Schema

end SchemaRouting
