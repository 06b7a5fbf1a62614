import SchemaRouting.Pipeline.Registry
import SchemaRouting.Proofs.Keyed

/-!
# The tree of a handler registry

What a level of the tree holds is told by the paths that lead to handlers. Every attempt to place a
handler on a level does one of two things (`placed_or_blocked`): the handler is put at its path
(`Placed`), which changes what is found at that path and at no other (`Placed.lookup`), or a handler
stands at another path that leads through this one or that this one leads through (`Blocked`), and
then the level is as it was. That the second is the only way to fail rests on an invariant of the
tree, that every group leads to some handler (`Node.Grown`), and every placing keeps it
(`Placed.grown`). The paths that are listed are those that lead to a handler
(`LevelGrown.mem_levelPaths`), in the order of their segments (`LevelGrown.pairwise_levelPaths`) and
so each once.
-/

set_option autoImplicit false
set_option relaxedAutoImplicit false

namespace SchemaRouting.HandlerRegistry

variable {φ : Type} {h : φ} {node : Node φ} {segment : String}
  {path other walked rest : List String} {level level' children : List (String × Node φ)}

/-! ### What paths lead to -/

/-- The handler that segments below a node lead to. -/
def Node.lookup : Node φ → List String → Option φ
  | .handler h, [] => some h
  | .handler _, _ :: _ => none
  | .group children, rest => HandlerRegistry.lookup rest children

/-- The level that a segment leads to, which is empty if the segment leads to no group. -/
def childrenAt (segment : String) (level : List (String × Node φ)) : List (String × Node φ) :=
  match Keyed.find? segment level with
  | some (.group children) => children
  | _ => []

theorem lookup_nil (level : List (String × Node φ)) : lookup [] level = none := rfl

theorem lookup_cons (segment : String) (rest : List String) (level : List (String × Node φ)) :
    lookup (segment :: rest) level = (Keyed.find? segment level).bind (·.lookup rest) := by
  cases rest with
  | nil =>
    rw [lookup]
    rcases Keyed.find? segment level with _ | (_ | _) <;> rfl
  | cons next rest =>
    rw [lookup]
    · rcases Keyed.find? segment level with _ | (_ | _) <;> rfl
    · simp

theorem lookup_empty (path : List String) : lookup path ([] : List (String × Node φ)) = none := by
  cases path with
  | nil => rfl
  | cons segment rest => rw [lookup_cons, Keyed.find?_nil, Option.bind_none]

/-- Below a segment that leads to no handler, a path finds what its rest finds. -/
theorem lookup_cons_childrenAt (hno : ∀ h', Keyed.find? segment level ≠ some (.handler h'))
    (rest : List String) :
    lookup (segment :: rest) level = lookup rest (childrenAt segment level) := by
  rw [lookup_cons, childrenAt]
  cases hfound : Keyed.find? segment level with
  | none => rw [Option.bind_none, lookup_empty]
  | some node =>
    cases node with
    | handler h' => exact absurd hfound (hno h')
    | group children => rfl

theorem find?_of_lookup_childrenAt
    (hrest : (lookup rest (childrenAt segment level)).isSome = true) :
    Keyed.find? segment level = some (.group (childrenAt segment level)) := by
  unfold childrenAt at hrest ⊢
  split at hrest
  · assumption
  · simp [lookup_empty] at hrest

theorem ne_nil_of_lookup (hpath : (lookup path level).isSome = true) : path ≠ [] := by
  rintro rfl
  simp [lookup_nil] at hpath

theorem mem_keys_of_lookup (hpath : (lookup (segment :: rest) level).isSome = true) :
    segment ∈ Keyed.keys level := by
  rw [lookup_cons] at hpath
  rw [Keyed.mem_keys_iff]
  cases hfound : Keyed.find? segment level with
  | none => simp [hfound] at hpath
  | some node => exact ⟨node, rfl⟩

/-- No path to a handler goes on to another one. -/
theorem eq_of_prefix_of_lookup (hpath : (lookup path level).isSome = true)
    (hother : (lookup other level).isSome = true) (hstarts : path <+: other) : path = other := by
  induction path generalizing other level with
  | nil => exact absurd rfl (ne_nil_of_lookup hpath)
  | cons segment rest ih =>
    obtain ⟨more, rfl⟩ := hstarts
    rw [List.cons_append] at hother
    rw [lookup_cons] at hpath hother
    cases hfound : Keyed.find? segment level with
    | none => simp [hfound] at hpath
    | some node =>
      rw [hfound, Option.bind_some] at hpath hother
      cases node with
      | handler h' =>
        cases rest with
        | nil =>
          cases more with
          | nil => rfl
          | cons next more => simp [Node.lookup] at hother
        | cons next rest => simp [Node.lookup] at hpath
      | group children =>
        have hrest : rest = rest ++ more := ih hpath hother (List.prefix_append _ _)
        rw [List.cons_append, ← hrest]

/-! ### The invariant of the tree -/

/-- A segment of a path holds something, but no point. -/
def IsSegment (segment : String) : Prop := segment ≠ "" ∧ '.' ∉ segment.toList

/-- A node that leads to a handler, and so do all groups below it; their segments ascend. -/
inductive Node.Grown : Node φ → Prop
  | handler (h : φ) : Grown (.handler h)
  | group {children : List (String × Node φ)} : children ≠ [] → Keyed.Ascending children →
    (∀ segment ∈ Keyed.keys children, IsSegment segment) →
    (∀ entry ∈ children, Node.Grown entry.2) → Grown (.group children)

/-- A level of which every node leads to a handler. -/
structure LevelGrown (level : List (String × Node φ)) : Prop where
  ascending : Keyed.Ascending level
  isSegment : ∀ segment ∈ Keyed.keys level, IsSegment segment
  grown : ∀ entry ∈ level, entry.2.Grown

theorem levelGrown_nil : LevelGrown ([] : List (String × Node φ)) :=
  ⟨Keyed.ascending_nil, nofun, nofun⟩

theorem LevelGrown.childrenAt (hlevel : LevelGrown level) (segment : String) :
    LevelGrown (childrenAt segment level) := by
  unfold HandlerRegistry.childrenAt
  split
  · rename_i children hfound
    cases hlevel.grown _ (Keyed.mem_of_find? hfound) with
    | group _ hascending hsegments hgrown => exact ⟨hascending, hsegments, hgrown⟩
  · exact levelGrown_nil

theorem LevelGrown.insert (hlevel : LevelGrown level) (hsegment : IsSegment segment)
    (hnode : node.Grown) : LevelGrown (Keyed.insert segment node level) where
  ascending := Keyed.ascending_insert hlevel.ascending segment node
  isSegment := by
    intro key hkey
    rcases Keyed.mem_keys_insert.mp hkey with rfl | hkey
    · exact hsegment
    · exact hlevel.isSegment key hkey
  grown := by
    intro entry hentry
    rcases Keyed.mem_of_mem_insert hentry with rfl | hentry
    · exact hnode
    · exact hlevel.grown entry hentry

theorem Node.Grown.exists_lookup (hnode : node.Grown) :
    ∃ rest, (node.lookup rest).isSome = true := by
  induction hnode with
  | handler h => exact ⟨[], rfl⟩
  | @group children hne _ _ _ ih =>
    obtain ⟨⟨segment, first⟩, more, rfl⟩ := List.exists_cons_of_ne_nil hne
    obtain ⟨rest, hrest⟩ := ih (segment, first) List.mem_cons_self
    refine ⟨segment :: rest, ?_⟩
    rw [Node.lookup, lookup_cons, Keyed.find?, if_pos rfl]
    exact hrest

theorem LevelGrown.isSegment_of_lookup (hlevel : LevelGrown level)
    (hpath : (lookup path level).isSome = true) : ∀ segment ∈ path, IsSegment segment := by
  induction path generalizing level with
  | nil => nofun
  | cons segment rest ih =>
    rw [lookup_cons] at hpath
    cases hfound : Keyed.find? segment level with
    | none => simp [hfound] at hpath
    | some node =>
      have hmem := Keyed.mem_of_find? hfound
      have hsegment : IsSegment segment := hlevel.isSegment _ (Keyed.mem_keys_of_mem hmem)
      rw [hfound, Option.bind_some] at hpath
      have hrest : ∀ other ∈ rest, IsSegment other := by
        cases hlevel.grown _ hmem with
        | handler h' =>
          cases rest with
          | nil => nofun
          | cons next rest => simp [Node.lookup] at hpath
        | group _ hascending hsegments hgrown =>
          exact ih ⟨hascending, hsegments, hgrown⟩ hpath
      exact List.forall_mem_cons.mpr ⟨hsegment, hrest⟩

/-! ### Placing a handler -/

/-- A handler is put at a path of a level: at a last segment that leads to no group, or further
below a segment that leads to no handler. -/
inductive Placed (h : φ) :
    List String → List (String × Node φ) → List (String × Node φ) → Prop
  | here {last : String} {level : List (String × Node φ)} :
    (∀ children, Keyed.find? last level ≠ some (.group children)) →
    Placed h [last] level (Keyed.insert last (.handler h) level)
  | under {segment : String} {rest : List String} {level children' : List (String × Node φ)} :
    (∀ h', Keyed.find? segment level ≠ some (.handler h')) →
    Placed h rest (childrenAt segment level) children' →
    Placed h (segment :: rest) level (Keyed.insert segment (.group children') level)

/-- A handler stands at another path that the path goes through, or that goes through the path. -/
inductive Blocked (walked path : List String) (level : List (String × Node φ)) : Obstacle → Prop
  | through {other : List String} : (lookup other level).isSome = true → other <+: path →
    other ≠ path → Blocked walked path level (.handlerAt (walked ++ other))
  | onto {other : List String} : (lookup other level).isSome = true → path <+: other →
    path ≠ other → Blocked walked path level (.namespaceAt (walked ++ path))

theorem Placed.ne_nil (hplaced : Placed h path level level') : level' ≠ [] := by
  cases hplaced <;> exact Keyed.insert_ne_nil _ _ _

theorem Placed.grown (hplaced : Placed h path level level') (hlevel : LevelGrown level)
    (hpath : ∀ segment ∈ path, IsSegment segment) : LevelGrown level' := by
  induction hplaced with
  | here _ => exact hlevel.insert (hpath _ List.mem_cons_self) (.handler h)
  | @under segment rest level children' _ hrest ih =>
    obtain ⟨hsegment, hsegments⟩ := List.forall_mem_cons.mp hpath
    have hchildren : LevelGrown children' := ih (hlevel.childrenAt segment) hsegments
    exact hlevel.insert hsegment
      (.group hrest.ne_nil hchildren.ascending hchildren.isSegment hchildren.grown)

/-- Placing a handler changes what is found at its path and at no other. -/
theorem Placed.lookup (hplaced : Placed h path level level') (other : List String) :
    lookup other level' = if other = path then some h else lookup other level := by
  induction hplaced generalizing other with
  | @here last level hno =>
    cases other with
    | nil => rfl
    | cons segment rest =>
      rw [lookup_cons, lookup_cons, Keyed.find?_insert]
      by_cases hsegment : segment = last
      · subst hsegment
        rw [if_pos rfl, Option.bind_some]
        cases rest with
        | nil => rw [if_pos rfl, Node.lookup]
        | cons next rest =>
          rw [if_neg (by simp), Node.lookup]
          rcases hfound : Keyed.find? segment level with _ | (h' | children)
          · rfl
          · rfl
          · exact absurd hfound (hno children)
      · rw [if_neg hsegment, if_neg (by simp [hsegment])]
  | @under head below level children' hno _ ih =>
    cases other with
    | nil => rfl
    | cons segment rest =>
      by_cases hsegment : segment = head
      · subst hsegment
        have hfound : Keyed.find? segment (Keyed.insert segment (.group children') level) =
            some (.group children') := Keyed.find?_insert_self _ _ _
        rw [lookup_cons, hfound, Option.bind_some, Node.lookup, ih rest,
          lookup_cons_childrenAt hno]
        simp
      · rw [lookup_cons, lookup_cons, Keyed.find?_insert, if_neg hsegment,
          if_neg (by simp [hsegment])]

/-- A handler is placed only where no other path with a handler is in its way. -/
theorem Placed.eq_of_prefix (hplaced : Placed h path level level')
    (hother : (HandlerRegistry.lookup other level).isSome = true)
    (hstarts : other <+: path ∨ path <+: other) : other = path := by
  induction hplaced generalizing other with
  | @here last level hno =>
    obtain ⟨segment, rest, rfl⟩ := List.exists_cons_of_ne_nil (ne_nil_of_lookup hother)
    rw [lookup_cons] at hother
    rcases hstarts with hstarts | hstarts
    · obtain ⟨rfl, hrest⟩ := List.cons_prefix_cons.mp hstarts
      rw [List.prefix_nil.mp hrest]
    · obtain ⟨rfl, -⟩ := List.cons_prefix_cons.mp hstarts
      rcases hfound : Keyed.find? last level with _ | (h' | children)
      · simp [hfound] at hother
      · cases rest with
        | nil => rfl
        | cons next rest => simp [hfound, Node.lookup] at hother
      · exact absurd hfound (hno children)
  | @under head below level children' hno _ ih =>
    obtain ⟨segment, rest, rfl⟩ := List.exists_cons_of_ne_nil (ne_nil_of_lookup hother)
    have hsplit : segment = head ∧ (rest <+: below ∨ below <+: rest) := by
      rcases hstarts with hstarts | hstarts
      · exact (List.cons_prefix_cons.mp hstarts).imp_right .inl
      · exact (List.cons_prefix_cons.mp hstarts).imp Eq.symm .inr
    obtain ⟨rfl, hrest⟩ := hsplit
    rw [lookup_cons_childrenAt hno] at hother
    rw [ih hother hrest]

theorem place_singleton_of_group {last : String}
    (hfound : Keyed.find? last level = some (.group children)) (walked : List String) :
    place h walked [last] level = (some (.namespaceAt (walked ++ [last])), level) := by
  rw [place, hfound]

theorem place_singleton {last : String}
    (hno : ∀ children, Keyed.find? last level ≠ some (.group children)) (walked : List String) :
    place h walked [last] level = (none, Keyed.insert last (.handler h) level) := by
  rw [place]
  rcases hfound : Keyed.find? last level with _ | (h' | children)
  · rfl
  · rfl
  · exact absurd hfound (hno children)

theorem place_cons_of_handler {h' : φ} (hrest : rest ≠ [])
    (hfound : Keyed.find? segment level = some (.handler h')) (walked : List String) :
    place h walked (segment :: rest) level = (some (.handlerAt (walked ++ [segment])), level) := by
  rw [place, hfound]
  exact hrest

theorem place_cons (hrest : rest ≠ [])
    (hno : ∀ h', Keyed.find? segment level ≠ some (.handler h')) (walked : List String) :
    place h walked (segment :: rest) level =
      ((place h (walked ++ [segment]) rest (childrenAt segment level)).1,
        Keyed.insert segment
          (.group (place h (walked ++ [segment]) rest (childrenAt segment level)).2) level) := by
  rw [place, childrenAt]
  · rcases hfound : Keyed.find? segment level with _ | (h' | children)
    · rfl
    · exact absurd hfound (hno h')
    · rfl
  · exact hrest

/-- What is in the way below a segment is in the way from it on. It was there before, so the segment
led to a group already. -/
theorem Blocked.cons {walked : List String} {obstacle : Obstacle}
    (hblocked : Blocked (walked ++ [segment]) rest (childrenAt segment level) obstacle)
    (hno : ∀ h', Keyed.find? segment level ≠ some (.handler h')) :
    Blocked walked (segment :: rest) level obstacle ∧
      Keyed.find? segment level = some (.group (childrenAt segment level)) := by
  have hlonger {other : List String} (hother : (lookup other (childrenAt segment level)).isSome) :
      (lookup (segment :: other) level).isSome = true := by
    rw [lookup_cons_childrenAt hno]
    exact hother
  cases hblocked with
  | through hother hstarts hne =>
    rw [List.append_assoc, List.singleton_append]
    exact ⟨
      .through (hlonger hother) (List.cons_prefix_cons.mpr ⟨rfl, hstarts⟩) (by simpa using hne),
      find?_of_lookup_childrenAt hother⟩
  | onto hother hstarts hne =>
    rw [List.append_assoc, List.singleton_append]
    exact ⟨.onto (hlonger hother) (List.cons_prefix_cons.mpr ⟨rfl, hstarts⟩) (by simpa using hne),
      find?_of_lookup_childrenAt hother⟩

/-- Assumes: a level of which every node leads to a handler, and a path of at least one segment. An
attempt to place a handler puts it at the path, or tells of another path that is in its way and
leaves the level as it was. -/
theorem placed_or_blocked (h : φ) (hlevel : LevelGrown level) (hpath : path ≠ [])
    (walked : List String) :
    (∃ level', place h walked path level = (none, level') ∧ Placed h path level level') ∨
      ∃ obstacle, place h walked path level = (some obstacle, level) ∧
        Blocked walked path level obstacle := by
  induction path generalizing walked level with
  | nil => exact absurd rfl hpath
  | cons segment rest ih =>
    by_cases hrest : rest = []
    · subst hrest
      by_cases hgroup : ∃ children, Keyed.find? segment level = some (.group children)
      · -- The group leads to a handler, whose path goes on from this one.
        obtain ⟨children, hfound⟩ := hgroup
        have hnode := hlevel.grown _ (Keyed.mem_of_find? hfound)
        obtain ⟨more, hmore⟩ := hnode.exists_lookup
        have hother : (lookup (segment :: more) level).isSome = true := by
          rw [lookup_cons, hfound, Option.bind_some]
          exact hmore
        have hne : more ≠ [] := ne_nil_of_lookup hmore
        refine .inr ⟨_, place_singleton_of_group hfound walked, .onto hother ?_ ?_⟩
        · exact List.cons_prefix_cons.mpr ⟨rfl, List.nil_prefix⟩
        · simpa using hne.symm
      · have hno := not_exists.mp hgroup
        exact .inl ⟨_, place_singleton hno walked, .here hno⟩
    · by_cases hhandler : ∃ h', Keyed.find? segment level = some (.handler h')
      · obtain ⟨h', hfound⟩ := hhandler
        have hother : (lookup [segment] level).isSome = true := by
          rw [lookup_cons, hfound]
          rfl
        refine .inr ⟨_, place_cons_of_handler hrest hfound walked, .through hother ?_ ?_⟩
        · exact List.cons_prefix_cons.mpr ⟨rfl, List.nil_prefix⟩
        · simpa using Ne.symm hrest
      · have hno := not_exists.mp hhandler
        have hplace := place_cons (h := h) hrest hno walked
        rcases ih (hlevel.childrenAt segment) hrest (walked ++ [segment]) with
          ⟨children', hbelow, hplaced⟩ | ⟨obstacle, hbelow, hblocked⟩
        · rw [hbelow] at hplace
          exact .inl ⟨_, hplace, .under hno hplaced⟩
        · obtain ⟨hblocked', hfound⟩ := hblocked.cons hno
          rw [hbelow, hlevel.ascending.insert_of_find? hfound] at hplace
          exact .inr ⟨obstacle, hplace, hblocked'⟩

/-! ### Listing the paths -/

section Listing

/-- The paths of a node are those that lead to a handler from it, behind the segments walked. -/
def ListsPaths (node : Node φ) : Prop :=
  ∀ walked path, path ∈ node.paths walked ↔
    ∃ rest, path = walked ++ rest ∧ (node.lookup rest).isSome = true

theorem mem_levelPaths_of_nodes (hkeys : (Keyed.keys level).Nodup)
    (hnodes : ∀ entry ∈ level, ListsPaths entry.2) (walked path : List String) :
    path ∈ levelPaths walked level ↔
      ∃ rest, path = walked ++ rest ∧ (lookup rest level).isSome = true := by
  induction level with
  | nil => simp [levelPaths, lookup_empty]
  | cons entry more ih =>
    obtain ⟨key, node⟩ := entry
    obtain ⟨hkey, hmore⟩ := List.nodup_cons.mp hkeys
    obtain ⟨hnode, hothers⟩ := List.forall_mem_cons.mp hnodes
    rw [levelPaths, List.mem_append, hnode, ih hmore hothers]
    constructor
    · rintro (⟨rest, rfl, hrest⟩ | ⟨rest, rfl, hrest⟩)
      · refine ⟨key :: rest, by simp, ?_⟩
        rw [lookup_cons, Keyed.find?, if_pos rfl]
        exact hrest
      · refine ⟨rest, rfl, ?_⟩
        obtain ⟨segment, rest, rfl⟩ := List.exists_cons_of_ne_nil (ne_nil_of_lookup hrest)
        have hne : key ≠ segment := by
          rintro rfl
          rw [lookup_cons, Keyed.find?_eq_none_iff.mpr hkey] at hrest
          cases hrest
        rw [lookup_cons, Keyed.find?, if_neg hne, ← lookup_cons]
        exact hrest
    · rintro ⟨rest, rfl, hrest⟩
      obtain ⟨segment, rest, rfl⟩ := List.exists_cons_of_ne_nil (ne_nil_of_lookup hrest)
      rw [lookup_cons, Keyed.find?] at hrest
      by_cases heq : key = segment
      · subst heq
        rw [if_pos rfl] at hrest
        exact .inl ⟨rest, by simp, hrest⟩
      · rw [if_neg heq, ← lookup_cons] at hrest
        exact .inr ⟨_, rfl, hrest⟩

theorem Node.Grown.listsPaths (hnode : node.Grown) : ListsPaths node := by
  induction hnode with
  | handler h =>
    intro walked path
    rw [Node.paths, List.mem_singleton]
    constructor
    · rintro rfl
      exact ⟨[], by simp, rfl⟩
    · rintro ⟨rest, rfl, hrest⟩
      cases rest with
      | nil => simp
      | cons segment rest => simp [Node.lookup] at hrest
  | group _ hascending _ _ ih =>
    intro walked path
    exact mem_levelPaths_of_nodes hascending.nodup ih walked path

theorem pairwise_levelPaths_of_nodes (hkeys : Keyed.Ascending level)
    (hnodes : ∀ entry ∈ level, ListsPaths entry.2)
    (hascending : ∀ entry ∈ level, ∀ walked, (entry.2.paths walked).Pairwise (· < ·))
    (walked : List String) : (levelPaths walked level).Pairwise (· < ·) := by
  induction level with
  | nil => exact List.Pairwise.nil
  | cons entry more ih =>
    obtain ⟨key, node⟩ := entry
    obtain ⟨hkey, hmore⟩ := Keyed.ascending_cons_iff.mp hkeys
    obtain ⟨hnode, hothers⟩ := List.forall_mem_cons.mp hnodes
    obtain ⟨hfirst, hrest⟩ := List.forall_mem_cons.mp hascending
    rw [levelPaths, List.pairwise_append]
    refine ⟨hfirst _, ih hmore hothers hrest, ?_⟩
    -- Of two paths below different segments the lesser one is below the lesser segment.
    intro path hpath other hother
    obtain ⟨below, rfl, -⟩ := (hnode _ _).mp hpath
    obtain ⟨rest, rfl, hfound⟩ := (mem_levelPaths_of_nodes hmore.nodup hothers _ _).mp hother
    obtain ⟨segment, rest, rfl⟩ := List.exists_cons_of_ne_nil (ne_nil_of_lookup hfound)
    have hlt : key < segment := hkey segment (mem_keys_of_lookup hfound)
    rw [List.append_assoc]
    exact List.append_left_lt (List.cons_lt_cons_iff.mpr (.inl hlt))

theorem Node.Grown.pairwise_paths (hnode : node.Grown) (walked : List String) :
    (node.paths walked).Pairwise (· < ·) := by
  induction hnode generalizing walked with
  | handler h => exact List.pairwise_singleton _ _
  | group _ hascending _ hgrown ih =>
    exact pairwise_levelPaths_of_nodes hascending
      (fun entry hentry ↦ (hgrown entry hentry).listsPaths) ih walked

theorem LevelGrown.mem_levelPaths (hlevel : LevelGrown level) (path : List String) :
    path ∈ levelPaths [] level ↔ (lookup path level).isSome = true := by
  have hnodes (entry) (hentry : entry ∈ level) : ListsPaths entry.2 :=
    (hlevel.grown entry hentry).listsPaths
  rw [mem_levelPaths_of_nodes hlevel.ascending.nodup hnodes]
  simp

/-- The paths are listed in their order, segment by segment. -/
theorem LevelGrown.pairwise_levelPaths (hlevel : LevelGrown level) :
    (levelPaths [] level).Pairwise (· < ·) :=
  pairwise_levelPaths_of_nodes hlevel.ascending
    (fun entry hentry ↦ (hlevel.grown entry hentry).listsPaths)
    (fun entry hentry walked ↦ (hlevel.grown entry hentry).pairwise_paths walked) []

theorem LevelGrown.nodup_levelPaths (hlevel : LevelGrown level) : (levelPaths [] level).Nodup := by
  refine hlevel.pairwise_levelPaths.imp fun hlt ↦ ?_
  rintro rfl
  exact List.lt_irrefl _ hlt

theorem LevelGrown.levelPaths_eq_nil_iff (hlevel : LevelGrown level) :
    levelPaths [] level = [] ↔ level = [] := by
  constructor
  · intro hpaths
    cases level with
    | nil => rfl
    | cons entry more =>
      obtain ⟨rest, hrest⟩ := (hlevel.grown entry List.mem_cons_self).exists_lookup
      have hmem : entry.1 :: rest ∈ levelPaths [] (entry :: more) := by
        rw [hlevel.mem_levelPaths, lookup_cons, Keyed.find?, if_pos rfl]
        exact hrest
      rw [hpaths] at hmem
      cases hmem
  · rintro rfl
    rfl

end Listing

end SchemaRouting.HandlerRegistry
