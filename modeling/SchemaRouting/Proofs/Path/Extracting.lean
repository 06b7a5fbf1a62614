import SchemaRouting.Proofs.Path.Matching

/-!
# What is taken from a path

A pattern and a path are gone through side by side. As far as the segments of the path stand for
those of the pattern the placeholders take them (`align_append`, `captured`), and the first one that
does not stand for the segment at its place is reported with its position (`align_of_departs`). So
the parameters of a path are known from its segments and those of the pattern alone
(`extract_of_fits`), and so is the reason why a path has none (`Departs`). A path that is made by
putting values for the placeholders of a pattern (`substitute`) gives these values back, unless it
is the pattern itself (`extract_substitute`).
-/

set_option autoImplicit false
set_option relaxedAutoImplicit false

namespace SchemaRouting.Path

variable {token segment : String} {tokens read front front' : List String}

instance : Decidable (StandsFor token segment) :=
  inferInstanceAs (Decidable (isPlaceholder token = true ∨ token = segment))

/-- The placeholders among some segments of a pattern, each with the segment of a path at its
place. -/
def captured (tokens read : List String) : List (String × String) :=
  (tokens.zip read).filter fun pair ↦ isPlaceholder pair.1

theorem captured_cons (token segment : String) (tokens read : List String) :
    captured (token :: tokens) (segment :: read) =
      if isPlaceholder token = true then (token, segment) :: captured tokens read
      else captured tokens read := by
  rw [captured, List.zip_cons_cons, List.filter_cons]
  rfl

/-- Segments of the same number stand for those of a pattern, or there is a first one that does
not. -/
theorem forall₂_standsFor_or_departs (hlength : tokens.length = read.length) :
    List.Forall₂ StandsFor tokens read ∨
      ∃ front front' token segment rest rest', tokens = front ++ token :: rest ∧
        read = front' ++ segment :: rest' ∧ List.Forall₂ StandsFor front front' ∧
        ¬ StandsFor token segment := by
  induction tokens generalizing read with
  | nil =>
    rw [List.length_eq_zero_iff.mp hlength.symm]
    exact .inl .nil
  | cons token tokens ih =>
    obtain ⟨segment, read, rfl⟩ := List.exists_cons_of_length_eq_add_one hlength.symm
    by_cases hfirst : StandsFor token segment
    · rcases ih (Nat.succ.inj hlength) with
        hall | ⟨front, front', t, s, rest, rest', rfl, rfl, hfront, hne⟩
      · exact .inl (.cons hfirst hall)
      · exact .inr ⟨token :: front, segment :: front', t, s, rest, rest', rfl, rfl,
          .cons hfirst hfront, hne⟩
    · exact .inr ⟨[], [], token, segment, tokens, read, rfl, rfl, .nil, hfirst⟩

namespace Pattern

variable {p : Pattern} {path : String} {values : List String}

/-! ### Going through a pattern and a path -/

/-- Segments that stand for those of the pattern are passed, and the placeholders take theirs. -/
theorem align_append (hfront : List.Forall₂ StandsFor front front') (position : Nat)
    (params : Params) (tokens read : List String) :
    align position params (front ++ tokens) (front' ++ read) =
      align (position + front.length) ⟨params.pairs ++ captured front front'⟩ tokens read := by
  induction hfront generalizing position params with
  | nil => simp [captured]
  | @cons token segment front front' hfirst _ ih =>
    rw [List.cons_append, List.cons_append, align, captured_cons, List.length_cons]
    by_cases hplaceholder : isPlaceholder token = true
    · rw [if_pos hplaceholder, if_pos hplaceholder, ih, Params.push, List.append_assoc,
        List.singleton_append, Nat.add_right_comm, Nat.add_assoc]
    · rw [if_neg hplaceholder, if_neg hplaceholder, if_pos (hfirst.resolve_left hplaceholder), ih,
        Nat.add_right_comm, Nat.add_assoc]

theorem align_of_standsFor (hall : List.Forall₂ StandsFor tokens read) :
    align 0 .empty tokens read = .ok ⟨captured tokens read⟩ := by
  have halign := align_append hall 0 .empty [] []
  rw [List.append_nil, List.append_nil] at halign
  exact halign

theorem align_of_departs (hfront : List.Forall₂ StandsFor front front')
    (hne : ¬ StandsFor token segment) (rest rest' : List String) :
    align 0 .empty (front ++ token :: rest) (front' ++ segment :: rest') =
      .error (.literal front.length token segment) := by
  obtain ⟨hplaceholder, hdiffers⟩ := not_or.mp hne
  rw [align_append hfront, align, if_neg hplaceholder, if_neg hdiffers, Nat.zero_add]

/-! ### The parameters of a path, or why it has none -/

/-- A path has as many segments as a pattern, which is not empty, and each of them stands for the
one of the pattern at its place: the same text, if that one is no placeholder. -/
def Fits (p : Pattern) (path : String) : Prop :=
  p.text ≠ "" ∧ List.Forall₂ StandsFor p.segments (Path.segments path)

/-- Why a path is not matched: the pattern is empty, or the numbers of segments differ, or else some
first segment differs from that of the pattern at its place, which is no placeholder. -/
inductive Departs (p : Pattern) (path : String) : Mismatch → Prop
  | emptyPattern : p.text = "" → path ≠ "" → Departs p path .emptyPattern
  | segmentCount : p.text ≠ "" → p.segments.length ≠ (Path.segments path).length →
    Departs p path (.segmentCount p.segments.length (Path.segments path).length)
  | literal {front front' rest rest' : List String} {token segment : String} : p.text ≠ "" →
    p.segments.length = (Path.segments path).length → p.segments = front ++ token :: rest →
    Path.segments path = front' ++ segment :: rest' → List.Forall₂ StandsFor front front' →
    isPlaceholder token = false → token ≠ segment →
    Departs p path (.literal front.length token segment)

theorem extract_self (p : Pattern) : p.extract p.text = .ok .empty := by
  rw [extract, if_pos rfl]

theorem extract_of_segmentCount_eq (hne : p.text ≠ path) (htext : p.text ≠ "")
    (hlength : p.segments.length = (Path.segments path).length) :
    p.extract path = align 0 .empty p.segments (Path.segments path) := by
  have hempty : ¬ p.text.isEmpty = true := fun h ↦ htext (String.isEmpty_iff.mp h)
  rw [extract, if_neg hne, if_neg hempty, if_pos hlength]

theorem extract_of_fits (hne : p.text ≠ path) (h : p.Fits path) :
    p.extract path = .ok ⟨captured p.segments (Path.segments path)⟩ := by
  rw [extract_of_segmentCount_eq hne h.1 h.2.length_eq, align_of_standsFor h.2]

theorem Departs.ne {m : Mismatch} (h : p.Departs path m) : p.text ≠ path := by
  cases h with
  | emptyPattern htext hpath => exact htext ▸ Ne.symm hpath
  | segmentCount _ hlength =>
    rintro rfl
    exact hlength rfl
  | @literal front front' rest rest' token segment _ _ htokens hread hfront hplaceholder hdiffers =>
    rintro rfl
    -- The same text has the same segments, so those at the place where the two depart are the same.
    have hsame : front ++ token :: rest = front' ++ segment :: rest' := htokens.symm.trans hread
    exact hdiffers (List.cons.inj (List.append_inj_right hsame hfront.length_eq)).1

theorem Departs.extract_eq {m : Mismatch} (h : p.Departs path m) : p.extract path = .error m := by
  have hne := h.ne
  cases h with
  | emptyPattern htext hpath =>
    rw [extract, if_neg hne, if_pos (String.isEmpty_iff.mpr htext)]
  | segmentCount htext hlength =>
    have hempty : ¬ p.text.isEmpty = true := fun h ↦ htext (String.isEmpty_iff.mp h)
    rw [extract, if_neg hne, if_neg hempty, if_neg hlength]
  | literal htext hlength htokens hread hfront hplaceholder hdiffers =>
    rw [extract_of_segmentCount_eq hne htext hlength, htokens, hread]
    exact align_of_departs hfront (not_or.mpr ⟨by simp [hplaceholder], hdiffers⟩) _ _

/-- A path is the pattern, or fits it, or departs from it. -/
theorem eq_or_fits_or_departs (p : Pattern) (path : String) :
    p.text = path ∨ p.Fits path ∨ ∃ m, p.Departs path m := by
  by_cases hsame : p.text = path
  · exact .inl hsame
  refine .inr ?_
  by_cases htext : p.text = ""
  · exact .inr ⟨_, .emptyPattern htext (htext ▸ Ne.symm hsame)⟩
  by_cases hlength : p.segments.length = (Path.segments path).length
  · rcases forall₂_standsFor_or_departs hlength with
      hall | ⟨front, front', token, segment, rest, rest', htokens, hread, hfront, hne⟩
    · exact .inl ⟨htext, hall⟩
    · obtain ⟨hplaceholder, hdiffers⟩ := not_or.mp hne
      exact .inr ⟨_, .literal htext hlength htokens hread hfront
        (Bool.not_eq_true _ ▸ hplaceholder) hdiffers⟩
  · exact .inr ⟨_, .segmentCount htext hlength⟩

theorem extract_eq_ok_iff {params : Params} : p.extract path = .ok params ↔
    p.text = path ∧ params = .empty ∨
      p.text ≠ path ∧ p.Fits path ∧ params = ⟨captured p.segments (Path.segments path)⟩ := by
  constructor
  · intro h
    by_cases hsame : p.text = path
    · subst hsame
      rw [extract_self] at h
      exact .inl ⟨rfl, (Except.ok.inj h).symm⟩
    · rcases eq_or_fits_or_departs p path with hsame' | hfits | ⟨m, hdeparts⟩
      · exact absurd hsame' hsame
      · rw [extract_of_fits hsame hfits] at h
        exact .inr ⟨hsame, hfits, (Except.ok.inj h).symm⟩
      · rw [hdeparts.extract_eq] at h
        cases h
  · rintro (⟨rfl, rfl⟩ | ⟨hne, hfits, rfl⟩)
    · exact p.extract_self
    · exact extract_of_fits hne hfits

theorem extract_eq_error_iff {m : Mismatch} :
    p.extract path = .error m ↔ p.Departs path m := by
  refine ⟨fun h ↦ ?_, Departs.extract_eq⟩
  rcases eq_or_fits_or_departs p path with rfl | hfits | ⟨m', hdeparts⟩
  · rw [extract_self] at h
    cases h
  · by_cases hsame : p.text = path
    · rw [← hsame, extract_self] at h
      cases h
    · rw [extract_of_fits hsame hfits] at h
      cases h
  · rw [hdeparts.extract_eq] at h
    exact Except.error.inj h ▸ hdeparts

/-! ### Putting values for the placeholders -/

/-- The segments of a pattern with values for its placeholders, from the first on. -/
def fill : List String → List String → List String
  | [], _ => []
  | token :: tokens, values =>
    if isPlaceholder token then values.headD token :: fill tokens values.tail
    else token :: fill tokens values

/-- The path that a pattern becomes with values for its placeholders. -/
def substitute (p : Pattern) (values : List String) : String :=
  String.intercalate "/" (fill p.segments values)

theorem forall₂_standsFor_fill (tokens values : List String) :
    List.Forall₂ StandsFor tokens (fill tokens values) := by
  induction tokens generalizing values with
  | nil => exact .nil
  | cons token tokens ih =>
    rw [fill]
    split_ifs with hplaceholder
    · exact .cons (.inl hplaceholder) (ih values.tail)
    · exact .cons (.inr rfl) (ih values)

theorem captured_fill (hvalues : values.length = tokens.countP isPlaceholder) :
    captured tokens (fill tokens values) = (tokens.filter isPlaceholder).zip values := by
  induction tokens generalizing values with
  | nil => rfl
  | cons token tokens ih =>
    rw [fill]
    by_cases hplaceholder : isPlaceholder token = true
    · rw [List.countP_cons_of_pos hplaceholder] at hvalues
      obtain ⟨value, values, rfl⟩ := List.exists_cons_of_length_eq_add_one hvalues
      rw [if_pos hplaceholder, captured_cons, if_pos hplaceholder,
        List.filter_cons_of_pos hplaceholder, List.zip_cons_cons]
      exact congrArg _ (ih (Nat.succ.inj hvalues))
    · rw [List.countP_cons_of_neg hplaceholder] at hvalues
      rw [if_neg hplaceholder, captured_cons, if_neg hplaceholder,
        List.filter_cons_of_neg hplaceholder]
      exact ih hvalues

theorem slash_notMem_of_mem_fill (htokens : ∀ s ∈ tokens, '/' ∉ s.toList)
    (hvalues : ∀ s ∈ values, '/' ∉ s.toList) (h : segment ∈ fill tokens values) :
    '/' ∉ segment.toList := by
  induction tokens generalizing values with
  | nil => cases h
  | cons token tokens ih =>
    have hrest : ∀ s ∈ tokens, '/' ∉ s.toList := fun s hs ↦ htokens s (List.mem_cons_of_mem _ hs)
    rw [fill] at h
    split_ifs at h
    · rcases List.mem_cons.mp h with rfl | h
      · cases values with
        | nil => exact htokens token List.mem_cons_self
        | cons value values => exact hvalues value List.mem_cons_self
      · exact ih hrest (fun s hs ↦ hvalues s (List.mem_of_mem_tail hs)) h
    · rcases List.mem_cons.mp h with rfl | h
      · exact htokens segment List.mem_cons_self
      · exact ih hrest hvalues h

theorem segments_substitute (hvalues : ∀ s ∈ values, '/' ∉ s.toList) :
    Path.segments (p.substitute values) = fill p.segments values := by
  refine segments_intercalate ?_ fun s hs ↦
    slash_notMem_of_mem_fill (fun _ ↦ slash_notMem_of_mem_segments) hvalues hs
  rw [← List.length_pos_iff, ← (forall₂_standsFor_fill p.segments values).length_eq,
    List.length_pos_iff]
  exact segments_ne_nil p.text

/-- Assumes: a value without slashes for each placeholder, and a path made with them that is not the
pattern. -/
theorem extract_substitute (hlength : values.length = p.placeholderCount)
    (hvalues : ∀ s ∈ values, '/' ∉ s.toList) (hne : p.substitute values ≠ p.text) :
    p.extract (p.substitute values) = .ok ⟨(p.segments.filter isPlaceholder).zip values⟩ := by
  have hsegments := segments_substitute (p := p) hvalues
  have hfits : List.Forall₂ StandsFor p.segments (Path.segments (p.substitute values)) := by
    rw [hsegments]
    exact forall₂_standsFor_fill p.segments values
  have htext : p.text ≠ "" := by
    intro hempty
    -- An empty pattern has no placeholder, so nothing else than itself can be made of it.
    refine hne ?_
    rw [substitute, segments, hempty]
    rfl
  rw [extract_of_fits hne.symm ⟨htext, hfits⟩, hsegments, captured_fill hlength]

/-- A path has parameters exactly if it is the pattern or fits it, segment by segment: none if it is
the pattern, and else the placeholders with the segments at their places, in the order of the
pattern. Any other path is refused, and the error is that of an empty pattern if the pattern is
empty, else that of the numbers of segments if they differ, else that of the first segment which
does not stand for the one at its place. Values without slashes, one for each placeholder, are given
back with the placeholders by the path that they make, unless it is the pattern itself. -/
theorem extract_reads_placeholders (p : Pattern) :
    (∀ path, (∃ params, p.extract path = .ok params) ↔ p.text = path ∨ p.Fits path) ∧
    (∀ path params, p.extract path = .ok params ↔
      p.text = path ∧ params = .empty ∨
        p.text ≠ path ∧ p.Fits path ∧ params = ⟨captured p.segments (Path.segments path)⟩) ∧
    (∀ path m, p.extract path = .error m ↔ p.Departs path m) ∧
    ∀ values : List String, values.length = p.placeholderCount →
      (∀ value ∈ values, '/' ∉ value.toList) →
      (p.substitute values = p.text → p.extract (p.substitute values) = .ok .empty) ∧
      (p.substitute values ≠ p.text → p.extract (p.substitute values) =
        .ok ⟨(p.segments.filter isPlaceholder).zip values⟩) := by
  refine ⟨fun path ↦ exists_extract_eq_ok_iff, fun path params ↦ extract_eq_ok_iff,
    fun path m ↦ extract_eq_error_iff, fun values hlength hvalues ↦ ⟨fun hsame ↦ ?_, fun hne ↦ ?_⟩⟩
  · rw [hsame]
    exact p.extract_self
  · exact extract_substitute hlength hvalues hne

/-- The lamps of a house: the values of two placeholders, one of them empty, are given back, a
path with another literal is refused at its place, and the pattern itself gives no parameters. -/
theorem lamp_of_house_read_back :
    let p : Pattern := ⟨"/:house/lamps/:id"⟩
    p.substitute ["", "7"] = "//lamps/7" ∧
    p.extract "//lamps/7" = .ok ⟨[(":house", ""), (":id", "7")]⟩ ∧
    p.extract "/oak/doors/7" = .error (.literal 2 "lamps" "doors") ∧
    p.extract "/:house/lamps/:id" = .ok .empty := by
  have hreads := extract_reads_placeholders ⟨"/:house/lamps/:id"⟩
  obtain ⟨-, hok, herror, hback⟩ := hreads
  have hmade : (⟨"/:house/lamps/:id"⟩ : Pattern).substitute ["", "7"] = "//lamps/7" := by
    decide +kernel
  refine ⟨hmade, ?_, (herror _ _).mpr ?_, (hok _ _).mpr (.inl ⟨rfl, rfl⟩)⟩
  · rw [← hmade]
    exact (hback ["", "7"] (by decide +kernel) (by decide +kernel)).2 (by decide +kernel)
  · have hfront : List.Forall₂ StandsFor ["", ":house"] ["", "oak"] :=
      .cons (.inr rfl) (.cons (.inl rfl) .nil)
    exact @Departs.literal _ _ ["", ":house"] ["", "oak"] [":id"] ["7"] "lamps" "doors"
      (by decide) rfl rfl rfl hfront rfl (by decide)

end Pattern

end SchemaRouting.Path
