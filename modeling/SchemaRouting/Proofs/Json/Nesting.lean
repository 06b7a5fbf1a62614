import SchemaRouting.Json.Reader
import SchemaRouting.Proofs.Json.Values

/-!
# Texts of nested arrays and objects

The tokens of a tree are those of its text, in whatever spacing (`Tree.tokens`). Reading them where
a value is due puts the tree there, as long as no more arrays and objects are open at once than may
be (`Json.Reader.reads_of_isJson`). So a text with the tokens of a tree that is nested no deeper
than that is read as the tree (`Json.readTree_eq`).
-/

set_option autoImplicit false
set_option relaxedAutoImplicit false

namespace SchemaRouting

namespace Tree

open Json (Token)

/-! ### Tokens and depth -/

mutual

/-- The tokens of the text of a tree. -/
def tokens : Tree → List Token
  | null => [.scalar .null]
  | bool b => [.scalar (.bool b)]
  | number n => [.scalar (.number n)]
  | string s | date s => [.text (some s)]
  | array items _ => .openArray :: [.comma].intercalate (itemTokens items) ++ [.closeArray]
  | object members _ => .openObject :: [.comma].intercalate (memberTokens members) ++ [.closeObject]
  | broken => [.bad]

def itemTokens : List Tree → List (List Token)
  | [] => []
  | t :: rest => t.tokens :: itemTokens rest

def memberTokens : List (String × Tree) → List (List Token)
  | [] => []
  | (key, t) :: rest => (.text (some key) :: .colon :: t.tokens) :: memberTokens rest

end

mutual

/-- How many arrays and objects are open at once in the text of a tree. -/
def depth : Tree → Nat
  | null | bool _ | number _ | string _ | date _ | broken => 0
  | array items _ => itemsDepth items + 1
  | object members _ => membersDepth members + 1

def itemsDepth : List Tree → Nat
  | [] => 0
  | t :: rest => max t.depth (itemsDepth rest)

def membersDepth : List (String × Tree) → Nat
  | [] => 0
  | (_, t) :: rest => max t.depth (membersDepth rest)

end

theorem itemTokens_eq_map (items : List Tree) : itemTokens items = items.map tokens := by
  induction items with
  | nil => rfl
  | cons t rest ih => rw [itemTokens, ih, List.map_cons]

theorem memberTokens_eq_map (members : List (String × Tree)) : memberTokens members =
    members.map fun member ↦ .text (some member.1) :: .colon :: member.2.tokens := by
  induction members with
  | nil => rfl
  | cons member rest ih => rw [memberTokens, ih, List.map_cons]

theorem depth_le_itemsDepth {items : List Tree} {t : Tree} (h : t ∈ items) :
    t.depth ≤ itemsDepth items := by
  induction items with
  | nil => cases h
  | cons u rest ih =>
    rw [itemsDepth]
    rcases List.mem_cons.mp h with rfl | h
    · exact Nat.le_max_left _ _
    · exact Nat.le_trans (ih h) (Nat.le_max_right _ _)

theorem depth_le_membersDepth {members : List (String × Tree)} {key : String} {t : Tree}
    (h : (key, t) ∈ members) : t.depth ≤ membersDepth members := by
  induction members with
  | nil => cases h
  | cons member rest ih =>
    rw [membersDepth]
    rcases List.mem_cons.mp h with rfl | h
    · exact Nat.le_max_left _ _
    · exact Nat.le_trans (ih h) (Nat.le_max_right _ _)

end Tree

/-! ### Reading the tokens -/

namespace Json.Reader

variable {t : Tree} {frames : List Frame}

/-- Reading the tokens of a tree where a value is due puts the tree there, unless too much is open.
-/
def Reads (t : Tree) : Prop :=
  ∀ (frames : List Frame) (due : Due), due = .value ∨ due = .valueOrEnd →
    frames.length + t.depth ≤ depthLimit →
    t.tokens.foldl step (reading frames due) = finish t frames

/-- Assumes: entries that are each put into the innermost frame, where one is due at first or after
a comma. Entries with commas between them are put there one after the other. -/
theorem foldl_entries {α : Type} {tokens : α → List Token} (frame : List α → Frame)
    (first next : Due)
    (hcomma : ∀ read, step (reading (frame read :: frames) .commaOrEnd) .comma =
      reading (frame read :: frames) next)
    {entries : List α} (hentries : ∀ a ∈ entries, ∀ read, ∀ due ∈ [first, next],
      (tokens a).foldl step (reading (frame read :: frames) due) =
        reading (frame (a :: read) :: frames) .commaOrEnd)
    (hne : entries ≠ []) {due : Due} (hdue : due ∈ [first, next]) (read : List α) :
    ([Token.comma].intercalate (entries.map tokens)).foldl step
        (reading (frame read :: frames) due) =
      reading (frame (entries.reverse ++ read) :: frames) .commaOrEnd := by
  induction entries generalizing due read with
  | nil => exact absurd rfl hne
  | cons a rest ih =>
    have hfirst := hentries a List.mem_cons_self read due hdue
    cases rest with
    | nil =>
      rw [List.map_singleton, List.intercalate_singleton, hfirst]
      rfl
    | cons b more =>
      have hrest := ih (fun c hc ↦ hentries c (List.mem_cons_of_mem _ hc)) nofun
        (List.mem_cons_of_mem first List.mem_cons_self) (a :: read)
      have hreverse : (a :: b :: more).reverse ++ read = (b :: more).reverse ++ a :: read := by
        simp
      rw [List.map_cons] at hrest
      rw [List.map_cons, List.map_cons, List.intercalate_cons_cons, List.foldl_append,
        List.foldl_append, hfirst, List.foldl_cons, List.foldl_nil, hcomma, hrest, hreverse]

theorem openFrame_of_length_lt (h : frames.length < depthLimit) (isArray : Bool) :
    openFrame isArray frames = reading ((if isArray then .items [] else .members []) :: frames)
      (if isArray then .valueOrEnd else .keyOrEnd) := by
  have hdrop : frames.drop (depthLimit - 1) = [] := List.drop_eq_nil_iff.mpr (by omega)
  rw [openFrame, hdrop]
  rfl

theorem reads_array {items : List Tree} (h : ∀ t ∈ items, Reads t) :
    Reads (.array items .strict) := by
  intro frames due hdue hdepth
  rw [Tree.depth] at hdepth
  have hopen : step (reading frames due) .openArray =
      reading (.items [] :: frames) .valueOrEnd := by
    rcases hdue with rfl | rfl <;> exact openFrame_of_length_lt (by omega) true
  rw [Tree.tokens, Tree.itemTokens_eq_map, List.cons_append, List.foldl_cons, hopen,
    List.foldl_append]
  by_cases hempty : items = []
  · subst hempty
    rfl
  · have hitems : ∀ t ∈ items, ∀ read, ∀ due ∈ [Due.valueOrEnd, .value],
        t.tokens.foldl step (reading (.items read :: frames) due) =
          reading (.items (t :: read) :: frames) .commaOrEnd := by
      intro t ht read due hdue
      have hle := Tree.depth_le_itemsDepth ht
      refine h t ht (.items read :: frames) due ?_ (by rw [List.length_cons]; omega)
      simpa [or_comm] using hdue
    rw [foldl_entries Frame.items .valueOrEnd .value (fun _ ↦ rfl) hitems hempty
      List.mem_cons_self, List.append_nil, List.foldl_cons, List.foldl_nil]
    change finish (.array items.reverse.reverse .strict) frames = _
    rw [List.reverse_reverse]

theorem reads_object {members : List (String × Tree)}
    (h : ∀ key t, (key, t) ∈ members → Reads t) : Reads (.object members .strict) := by
  intro frames due hdue hdepth
  rw [Tree.depth] at hdepth
  have hopen : step (reading frames due) .openObject =
      reading (.members [] :: frames) .keyOrEnd := by
    rcases hdue with rfl | rfl <;> exact openFrame_of_length_lt (by omega) false
  rw [Tree.tokens, Tree.memberTokens_eq_map, List.cons_append, List.foldl_cons, hopen,
    List.foldl_append]
  by_cases hempty : members = []
  · subst hempty
    rfl
  · have hmembers : ∀ member ∈ members, ∀ read, ∀ due ∈ [Due.keyOrEnd, .key],
        (Token.text (some member.1) :: .colon :: member.2.tokens).foldl step
            (reading (.members read :: frames) due) =
          reading (.members (member :: read) :: frames) .commaOrEnd := by
      intro member hmem read due hdue
      have hle : member.2.depth ≤ Tree.membersDepth members := Tree.depth_le_membersDepth hmem
      have hkey : step (step (reading (.members read :: frames) due) (.text (some member.1)))
          .colon = reading (.member read member.1 :: frames) .value := by
        simp only [List.mem_cons, List.not_mem_nil, or_false] at hdue
        rcases hdue with rfl | rfl <;> rfl
      rw [List.foldl_cons, List.foldl_cons, hkey]
      exact h member.1 member.2 hmem (.member read member.1 :: frames) .value (.inl rfl)
        (by rw [List.length_cons]; omega)
    rw [foldl_entries Frame.members .keyOrEnd .key (fun _ ↦ rfl) hmembers hempty
      List.mem_cons_self, List.append_nil, List.foldl_cons, List.foldl_nil]
    change finish (.object members.reverse.reverse .strict) frames = _
    rw [List.reverse_reverse]

theorem reads_of_isJson (h : t.IsJson) : Reads t := by
  induction h with
  | null | bool b | int n | string s =>
    intro frames due hdue _
    rcases hdue with rfl | rfl <;> rfl
  | float _ =>
    intro frames due hdue _
    rcases hdue with rfl | rfl <;> rfl
  | array _ ih => exact reads_array ih
  | object _ _ ih => exact reads_object ih

end Json.Reader

/-- A text with the tokens of a tree is read as the tree, if it is not nested too deep. -/
theorem Json.readTree_eq {t : Tree} (h : t.IsJson) (hdepth : t.depth ≤ depthLimit) {text : String}
    (htext : Token.all text.toList = t.tokens) : readTree text = (t, true) := by
  rw [readTree, htext, Reader.start,
    Reader.reads_of_isJson h [] .value (.inl rfl) (by simpa using hdepth)]
  rfl

end SchemaRouting
