import SchemaRouting.Proofs.Registry.PathMap
import SchemaRouting.Proofs.Schema.Shape
import SchemaRouting.Proofs.Text.Trimming

/-!
# The names that schemas give to handlers

A schema may name a handler by any text that is, but for white space around it, words between
points (`IsDotted`, `isName_iff`). The words of such a name are segments (`IsNameWord.isSegment`),
which is all that a registry asks of one. So a handler can be registered under every name that a
schema may give it, and is then found under this name, within white space or not, and under no other
(`registersAlone`).
-/

set_option autoImplicit false
set_option relaxedAutoImplicit false

namespace SchemaRouting

/-! ### A registry of one handler -/

namespace HandlerRegistry

variable {φ : Type} {name other : String} {path : List String}

/-- Of a name no more is read than what trimming leaves. -/
theorem segments?_eq_some_iff_trim (hname : segments? name = some path) :
    segments? other = some path ↔ Text.trim other = Text.trim name := by
  constructor
  · intro hother
    rw [← dotted_of_segments? hother, dotted_of_segments? hname]
  · intro htrim
    rw [← hname, segments?, segments?, htrim]

theorem register_empty_of_segments? (hname : segments? name = some path) (h : φ) :
    ((empty : HandlerRegistry φ).register name h).1 = .ok () := by
  have hregisters := registers (r := empty) levelGrown_nil name h
  generalize (empty : HandlerRegistry φ).register name h = result at hregisters ⊢
  cases hregisters with
  | refused hnone =>
    rw [hname] at hnone
    cases hnone
  | blocked _ hblocked =>
    -- Nothing is found in an empty registry, so nothing is in the way.
    cases hblocked with
    | through hother => simp [empty, lookup_empty] at hother
    | onto hother => simp [empty, lookup_empty] at hother
  | done => rfl

/-- A handler that is registered under a name where no other one is: that succeeds, the name is the
one that is listed, as trimming leaves it, and the handler is found under it, within white space or
not, and under no other name. -/
structure RegistersAlone (name : String) (h : φ) : Prop where
  registered : ((empty : HandlerRegistry φ).register name h).1 = .ok ()
  names : ((empty : HandlerRegistry φ).register name h).2.names = [Text.trim name]
  resolve : ∀ other, ((empty : HandlerRegistry φ).register name h).2.resolve? other =
    if Text.trim other = Text.trim name then some h else none
  padded : ∀ front back : String, (∀ c ∈ front.toList, Text.isBlank c = true) →
    (∀ c ∈ back.toList, Text.isBlank c = true) →
    ((empty : HandlerRegistry φ).register name h).2.resolve? (front ++ name ++ back) = some h

theorem registersAlone_of_segments? (hname : segments? name = some path) (h : φ) :
    RegistersAlone name h := by
  have hok := register_empty_of_segments? hname h
  have hgrown : LevelGrown ((empty : HandlerRegistry φ).register name h).2.root :=
    (holds_register holds_empty name h).grown
  obtain ⟨path', hname', hresolve, hpaths⟩ := register_of_ok (r := empty) levelGrown_nil name h hok
  obtain rfl : path = path' := Option.some.inj (hname.symm.trans hname')
  have hfound (other : String) : ((empty : HandlerRegistry φ).register name h).2.resolve? other =
      if Text.trim other = Text.trim name then some h else none := by
    have hnone : (empty : HandlerRegistry φ).resolve? other = none := by
      simp [resolve?, empty, lookup_empty]
    simp only [hresolve, hnone, segments?_eq_some_iff_trim hname]
  refine ⟨hok, ?_, hfound, fun front back hfront hback ↦ ?_⟩
  · have hmem : ∀ other, other ∈ ((empty : HandlerRegistry φ).register name h).2.paths ↔
        other ∈ [path] := by
      intro other
      rw [hpaths, List.mem_singleton]
      exact or_iff_left List.not_mem_nil
    have hperm : ((empty : HandlerRegistry φ).register name h).2.paths.Perm [path] :=
      (List.perm_ext_iff_of_nodup hgrown.nodup_levelPaths (List.pairwise_singleton _ path)).mpr hmem
    have hone : ((empty : HandlerRegistry φ).register name h).2.paths = [path] :=
      List.perm_singleton.mp hperm
    show ((empty : HandlerRegistry φ).register name h).2.paths.map dotted = [Text.trim name]
    rw [hone, List.map_singleton, dotted_of_segments? hname]
  · rw [hfound, if_pos (Text.trim_padded hfront hback name)]

end HandlerRegistry

namespace Schema.Shape

variable {σ φ : Type} {s name word : String}

/-! ### Words between points -/

/-- A word of a name: a letter, a low line or a dollar sign, and after it any of these, digits and
hyphens. Letters and digits are those of ASCII. -/
def IsNameWord (word : String) : Prop :=
  ∃ c cs, word.toList = c :: cs ∧ (c.isAlpha = true ∨ c = '_' ∨ c = '$') ∧
    ∀ d ∈ cs, d.isAlphanum = true ∨ d = '_' ∨ d = '$' ∨ d = '-'

/-- Words with points between them, at least one. -/
def IsDotted (s : String) : Prop :=
  ∃ words, words ≠ [] ∧ s = String.intercalate "." words ∧ ∀ word ∈ words, IsNameWord word

theorem isLetter_eq_isAlpha (c : Char) : isLetter c = c.isAlpha := by
  have halpha : c.isAlpha = (c.isUpper || c.isLower) := rfl
  have hupper : c.isUpper = (decide ('A' ≤ c) && decide (c ≤ 'Z')) := Bool.decide_and _ _
  have hlower : c.isLower = (decide ('a' ≤ c) && decide (c ≤ 'z')) := rfl
  rw [isLetter, halpha, hupper, hlower, Bool.or_comm]

theorem startsSegment_iff {c : Char} :
    startsSegment c = true ↔ c.isAlpha = true ∨ c = '_' ∨ c = '$' := by
  simp [startsSegment, isLetter_eq_isAlpha, or_assoc]

theorem continuesSegment_iff {c : Char} :
    continuesSegment c = true ↔ c.isAlphanum = true ∨ c = '_' ∨ c = '$' ∨ c = '-' := by
  have hdigit : isDigit c = c.isDigit := rfl
  simp only [continuesSegment, Bool.or_eq_true, startsSegment_iff, hdigit, beq_iff_eq,
    Char.isAlphanum]
  tauto

theorem isWord_iff_isNameWord :
    isWord startsSegment continuesSegment word.toList = true ↔ IsNameWord word := by
  rw [IsNameWord]
  cases word.toList with
  | nil => simp [isWord]
  | cons c cs => simp [isWord, startsSegment_iff, continuesSegment_iff]

/-- A word is a segment of a registry's name: it has characters, and none of them is a point. -/
theorem IsNameWord.isSegment (h : IsNameWord word) : HandlerRegistry.IsSegment word := by
  obtain ⟨c, cs, hword, hfirst, hothers⟩ := h
  constructor
  · rintro rfl
    cases hword
  · rw [hword, List.mem_cons]
    rintro (rfl | hpoint)
    · exact absurd hfirst (by decide)
    · exact absurd (hothers _ hpoint) (by decide)

theorem isHandlerName_iff :
    isHandlerName s = true ↔ ∀ word ∈ Text.split '.' s, IsNameWord word := by
  simp [isHandlerName, Text.split, ← isWord_iff_isNameWord]

/-- The texts that may name a handler, when there is no white space around them. -/
theorem isHandlerName_iff_isDotted : isHandlerName s = true ↔ IsDotted s := by
  rw [isHandlerName_iff]
  constructor
  · intro hwords
    exact ⟨Text.split '.' s, Text.split_ne_nil '.' s, (Text.intercalate_split '.' s).symm, hwords⟩
  · rintro ⟨words, hne, rfl, hwords⟩
    have hsplit : Text.split '.' (String.intercalate "." words) = words :=
      Text.split_intercalate hne fun word hword ↦ (hwords word hword).isSegment.2
    rw [hsplit]
    exact hwords

theorem isName_iff : IsName name ↔ IsDotted (Text.trim name) := isHandlerName_iff_isDotted

/-- The segments of a name that a schema may give to a handler. -/
theorem segments?_of_isName (h : IsName name) :
    HandlerRegistry.segments? name = some (Text.split '.' (Text.trim name)) := by
  have hwords := isHandlerName_iff.mp h
  have hsegments : "" ∉ Text.split '.' (Text.trim name) :=
    fun hmem ↦ (hwords _ hmem).isSegment.1 rfl
  refine HandlerRegistry.segments?_eq_some_iff.mpr ⟨⟨fun hempty ↦ hsegments ?_, hsegments⟩, rfl⟩
  rw [hempty]
  exact List.mem_singleton_self ""

/-! ### Where schemas give names -/

/-- A route names a handler, a factory or a middleware. -/
inductive NamedInRoute (r : RouteDefinition σ) (name : String) : Prop
  | postValidation : r.postValidation = some name → NamedInRoute r name
  | loadFactory : r.loadFactory = some name → NamedInRoute r name
  | handler : r.handler = some name → NamedInRoute r name
  | postHandler : r.postHandler = some name → NamedInRoute r name
  | useFactory : r.useFactory = some name → NamedInRoute r name
  | middleware : .named name ∈ r.middlewares → NamedInRoute r name

/-- A schema or one of its routes names a handler, a factory or a middleware. -/
inductive NamedIn (d : Definition σ) (name : String) : Prop
  | useFactory : d.useFactory = some name → NamedIn d name
  | loadFactory : d.loadFactory = some name → NamedIn d name
  | middleware : .named name ∈ d.middlewares → NamedIn d name
  | route {id : String} {r : RouteDefinition σ} : (id, .route r) ∈ d.routes →
    NamedInRoute r name → NamedIn d name

theorem RouteShaped.isName {r : RouteDefinition σ} (h : RouteShaped r)
    (hname : NamedInRoute r name) : IsName name := by
  cases hname with
  | postValidation hname => exact h.postValidation name hname
  | loadFactory hname => exact h.loadFactory name hname
  | handler hname => exact h.handler name hname
  | postHandler hname => exact h.postHandler name hname
  | useFactory hname => exact h.useFactory name hname
  | middleware hname => exact h.middlewares name hname

theorem WellShaped.isName {d : Definition σ} (h : WellShaped d) (hname : NamedIn d name) :
    IsName name := by
  cases hname with
  | useFactory hname => exact h.useFactory name hname
  | loadFactory hname => exact h.loadFactory name hname
  | middleware hname => exact h.middlewares name hname
  | route hroute hname =>
    obtain ⟨-, hentry⟩ := h.routes _ _ hroute
    cases hentry with
    | route hshaped => exact hshaped.isName hname

/-! ### Names that are accepted -/

/-- A name passes the check of a handler's name exactly if trimming leaves words between points, and
middlewares pass theirs exactly if the names among them are so. Every name in a schema that passes
its check is so, wherever it stands. And under every name that is so any handler can be registered
where no other one is: the name, trimmed, is then the only one that is listed, and the handler is
found under the name within any white space, and under no other. -/
theorem accepted_names_register_alone (name : String) :
    (∀ field, checkHandlerName field name = .ok () ↔ IsDotted (Text.trim name)) ∧
    (∀ field index (ms : List (Middleware σ)), checkMiddlewares field index ms = .ok () ↔
      ∀ other, .named other ∈ ms → IsDotted (Text.trim other)) ∧
    (∀ d : Definition σ, check d = .ok () → NamedIn d name → IsDotted (Text.trim name)) ∧
    (IsDotted (Text.trim name) → ∀ h : φ, HandlerRegistry.RegistersAlone name h) := by
  refine ⟨fun field ↦ ?_, fun field index ms ↦ ?_, fun d hcheck hname ↦ ?_, fun hdotted h ↦ ?_⟩
  · rw [checkHandlerName, require_eq_ok_iff, isHandlerName_iff_isDotted]
  · simp only [checkMiddlewares_eq_ok_iff, isHandlerName_iff_isDotted]
  · exact isName_iff.mp ((check_eq_ok_iff.mp hcheck).isName hname)
  · exact HandlerRegistry.registersAlone_of_segments?
      (segments?_of_isName (isName_iff.mpr hdotted)) h

/-- A schema with one route, the handler of which is named before a line feed. -/
def dimmedLamps : Definition Unit where
  __ := Settings.empty
  routes := [("get", .route { RouteSettings.empty with handler := some " $lamps.dim-all\n" })]

/-- The name that it gives to the handler is good for a registry. -/
theorem lamp_handler_registers : check dimmedLamps = .ok () ∧
    NamedIn dimmedLamps " $lamps.dim-all\n" ∧
    (HandlerRegistry.empty.register " $lamps.dim-all\n" 7).2.names = ["$lamps.dim-all"] ∧
    (HandlerRegistry.empty.register " $lamps.dim-all\n" 7).2.resolve? "\t $lamps.dim-all\n" =
      some 7 := by
  have hcheck : check dimmedLamps = .ok () := by decide
  have hnamed : NamedIn dimmedLamps " $lamps.dim-all\n" :=
    .route List.mem_cons_self (.handler rfl)
  obtain ⟨-, -, hdotted, hregisters⟩ :=
    accepted_names_register_alone (σ := Unit) (φ := Nat) " $lamps.dim-all\n"
  have halone := hregisters (hdotted dimmedLamps hcheck hnamed) 7
  refine ⟨hcheck, hnamed, halone.names, ?_⟩
  have htab : ∀ c ∈ "\t".toList, Text.isBlank c = true := List.forall_mem_singleton.mpr rfl
  have hempty : ∀ c ∈ "".toList, Text.isBlank c = true := List.forall_mem_nil _
  exact halone.padded "\t" "" htab hempty

end Schema.Shape

end SchemaRouting
