import ScriptBridge.Proofs.Capture.Room

/-! # A cap in front of a buffer

Items may have to pass a cap before they come to a buffer. Both take what still fits, but the cap
also counts what the buffer then drops or has no use for, and may have nothing left for items that the
buffer would have kept. The buffer holds what it would hold without the cap exactly if that never
happens.
-/

namespace ScriptBridge

/-- There is room for a piece that comes after others. -/
def Passes (room : Nat) (before : List Bytes) (piece : Bytes) : Prop :=
  (admitted room before).flatten.length + piece.length ≤ room

theorem passes_nil_iff {room : Nat} {piece : Bytes} : Passes room [] piece ↔ piece.length ≤ room := by
  rw [Passes, admitted, List.flatten_nil, List.length_nil, Nat.zero_add]

theorem passes_cons_iff {room : Nat} {first piece : Bytes} {before : List Bytes} :
    Passes room (first :: before) piece ↔
      Passes (room - (admitted room [first]).flatten.length) before piece := by
  have both := admitted_append room [first] before
  have below := length_admitted_le room [first]
  rw [List.singleton_append] at both
  rw [Passes, Passes, both, List.flatten_append, List.length_append]
  omega

theorem passes_of_within {room : Nat} {before : List Bytes} {piece : Bytes}
    (within : before.flatten.length + piece.length ≤ room) : Passes room before piece := by
  have taken := (admitted_sublist room before).flatten.length_le
  rw [Passes]
  omega

section

variable {α : Type} {cost piece : α → Bytes} {items kept : List α} {cap room : Nat}

/-- A cap, to which an item has a `cost`, refuses none of those whose `piece` finds room if all are
    offered. -/
def Spares (cap room : Nat) (cost piece : α → Bytes) (items : List α) : Prop :=
  ∀ before item after, items = before ++ item :: after → piece item ≠ [] →
    Passes room (before.map piece) (piece item) → Passes cap (before.map cost) (cost item)

theorem spares_cons_iff {item : α} :
    Spares cap room cost piece (item :: items) ↔
      (piece item ≠ [] → (piece item).length ≤ room → (cost item).length ≤ cap) ∧
        Spares (cap - (admitted cap [cost item]).flatten.length)
          (room - (admitted room [piece item]).flatten.length) cost piece items := by
  constructor
  · intro spares
    refine ⟨fun filled fits => ?_, ?_⟩
    · exact passes_nil_iff.mp (spares [] item items rfl filled (passes_nil_iff.mpr fits))
    · rintro before next after rfl filled fits
      have later := spares (item :: before) next after rfl filled
      rw [List.map_cons, List.map_cons, passes_cons_iff, passes_cons_iff] at later
      exact later fits
  · rintro ⟨first, rest⟩ before next after split filled fits
    cases before with
    | nil =>
        obtain ⟨rfl, rfl⟩ := List.cons.inj split
        exact passes_nil_iff.mpr (first filled (passes_nil_iff.mp fits))
    | cons head before =>
        obtain ⟨rfl, rfl⟩ := List.cons.inj split
        rw [List.map_cons, passes_cons_iff] at fits ⊢
        exact rest before next after rfl filled fits

/-- What an item brings along is what it costs, or it brings nothing. -/
def Priced (cost piece : α → Bytes) : Prop :=
  ∀ item, piece item = cost item ∨ piece item = []

theorem Priced.length_le (priced : Priced cost piece) (items : List α) :
    (items.map piece).flatten.length ≤ (items.map cost).flatten.length := by
  induction items with
  | nil => exact Nat.le_refl 0
  | cons item items ih =>
      simp only [List.map_cons, List.flatten_cons, List.length_append]
      rcases priced item with same | nothing
      · rw [same]
        omega
      · rw [nothing, List.length_nil]
        omega

/-- What passes the cap fills the room in the same way as all items exactly if the cap refuses none
    that there is room for. -/
theorem flatten_admitted_kept_eq_iff (priced : Priced cost piece)
    (injective : Function.Injective cost)
    (passed : kept.map cost = admitted cap (items.map cost)) :
    (admitted room (kept.map piece)).flatten = (admitted room (items.map piece)).flatten ↔
      Spares cap room cost piece items := by
  induction items generalizing kept cap room with
  | nil =>
      rw [List.map_nil, admitted, List.map_eq_nil_iff] at passed
      rw [passed]
      exact ⟨fun _ before item after split => by simp at split, fun _ => rfl⟩
  | cons item items ih =>
      rw [spares_cons_iff]
      by_cases passes : (cost item).length ≤ cap
      · simp only [List.map_cons, admitted, passes, if_true, List.map_eq_cons_iff] at passed
        obtain ⟨first, kept, rfl, same, passed⟩ := passed
        obtain rfl : item = first := (injective same).symm
        by_cases fits : (piece item).length ≤ room
        · simp [admitted, passes, fits, ih passed]
        · simp [admitted, passes, fits, ih passed]
      · simp only [List.map_cons, admitted, passes, if_false] at passed
        by_cases nothing : piece item = []
        · simp [admitted, passes, nothing, ih passed]
        · have whole : piece item = cost item := (priced item).resolve_right nothing
          by_cases fits : (piece item).length ≤ room
          · -- the cap has less left than this item costs, so that no others can make up for it
            have held := (admitted_sublist room (kept.map piece)).flatten.length_le
            have brought := priced.length_le kept
            have left := length_admitted_le cap (items.map cost)
            rw [passed] at brought
            have ne : (admitted room (kept.map piece)).flatten ≠
                piece item ++ (admitted (room - (piece item).length) (items.map piece)).flatten := by
              intro same
              have lengths := congrArg List.length same
              rw [List.length_append, whole] at lengths
              omega
            simp only [List.map_cons, admitted, passes, nothing, fits, if_true, if_false,
              List.flatten_cons, ne, not_false_eq_true, ne_eq, true_imp_iff, false_and]
          · simp [admitted, passes, fits, ih passed]

end

namespace OutputBuffer

variable {policy : CapacityPolicy} {alloc : Allocator} {buffer : OutputBuffer} {room : Nat}

theorem ready_new (policy : CapacityPolicy) (alloc : Allocator) :
    Ready policy alloc (newUnder alloc policy) :=
  (regular_unallocated policy alloc).reset

theorem Ready.data_foldl_append_of_empty (ready : Ready policy alloc buffer)
    (empty : buffer.data = []) (smaller : CapacityPolicy.GrantsSmaller alloc)
    (isRoom : ∀ size, policy.Holds alloc size ↔ size ≤ room) (pieces : List Bytes) :
    (pieces.foldl (appendUnder alloc) buffer).data = (admitted room pieces).flatten := by
  have nothing : buffer.size = 0 := by rw [size, empty, List.length_nil]
  rw [ready.toRegular.data_foldl_append_eq_admitted ready.able smaller isRoom, nothing, empty,
    Nat.sub_zero, List.nil_append]

theorem keeps_foldl_append_iff (smaller : CapacityPolicy.GrantsSmaller alloc)
    (isRoom : ∀ size, policy.Holds alloc size ↔ size ≤ room) (before : List Bytes) {piece : Bytes}
    (filled : piece ≠ []) :
    (before.foldl (appendUnder alloc) (newUnder alloc policy)).Keeps alloc piece ↔
      Passes room before piece := by
  have ready := (stable_ready policy alloc).foldl_append (ready_new policy alloc) before
  rw [ready.toRegular.keeps_iff ready.able smaller isRoom filled, size,
    (ready_new policy alloc).data_foldl_append_of_empty rfl smaller isRoom, Passes]

section

variable {α : Type} {cost piece : α → Bytes} {items kept more : List α} {cap : Nat}

/-- A cap, to which an item has a `cost`, refuses none of those whose `piece` a new buffer would keep
    if it were offered all of them. -/
def CapSpares (alloc : Allocator) (policy : CapacityPolicy) (cap : Nat) (cost piece : α → Bytes)
    (items : List α) : Prop :=
  ∀ before item after, items = before ++ item :: after → piece item ≠ [] →
    ((before.map piece).foldl (appendUnder alloc) (newUnder alloc policy)).Keeps alloc
        (piece item) →
      Passes cap (before.map cost) (cost item)

theorem capSpares_iff (smaller : CapacityPolicy.GrantsSmaller alloc)
    (isRoom : ∀ size, policy.Holds alloc size ↔ size ≤ room) :
    CapSpares alloc policy cap cost piece items ↔ Spares cap room cost piece items := by
  constructor
  · intro spares before item after split filled fits
    exact spares before item after split filled
      ((keeps_foldl_append_iff smaller isRoom _ filled).mpr fits)
  · intro spares before item after split filled keeps
    exact spares before item after split filled
      ((keeps_foldl_append_iff smaller isRoom _ filled).mp keeps)

/-- Behind a cap an emptied buffer holds the same as a new one without the cap, exactly if the cap
    refuses nothing that the new one keeps. -/
theorem Ready.data_capped_eq_iff (ready : Ready policy alloc buffer) (empty : buffer.data = [])
    (smaller : CapacityPolicy.GrantsSmaller alloc) (priced : Priced cost piece)
    (injective : Function.Injective cost)
    (passed : kept.map cost = admitted cap (items.map cost)) :
    ((kept.map piece).foldl (appendUnder alloc) buffer).data =
        ((items.map piece).foldl (appendUnder alloc) (newUnder alloc policy)).data ↔
      CapSpares alloc policy cap cost piece items := by
  obtain ⟨room, isRoom⟩ := CapacityPolicy.exists_room policy alloc
  rw [ready.data_foldl_append_of_empty empty smaller isRoom,
    (ready_new policy alloc).data_foldl_append_of_empty rfl smaller isRoom,
    capSpares_iff smaller isRoom]
  exact flatten_admitted_kept_eq_iff priced injective passed

theorem CapSpares.left (spares : CapSpares alloc policy cap cost piece (items ++ more)) :
    CapSpares alloc policy cap cost piece items := by
  rintro before item after rfl
  exact spares before item (after ++ more) (by simp)

theorem capSpares_of_within (within : (items.map cost).flatten.length ≤ cap) :
    CapSpares alloc policy cap cost piece items := by
  rintro before item after rfl - -
  apply passes_of_within
  rw [List.map_append, List.map_cons, List.flatten_append, List.flatten_cons, List.length_append,
    List.length_append] at within
  omega

/-- A cap at the ceiling refuses nothing that is kept, if the ceiling is made up of whole chunks and can
    be allocated, and if the buffer is to hold all that the cap counts. -/
theorem capSpares_of_whole_chunks (smaller : CapacityPolicy.GrantsSmaller alloc)
    (small : policy.chunkSize ≤ policy.maxSize)
    (whole : policy.chunkSize.toNat ∣ policy.maxSize.toNat)
    (granted : alloc policy.maxSize = true) (all : ∀ item ∈ items, piece item = cost item) :
    CapSpares alloc policy policy.maxSize.toNat cost piece items := by
  have reached : policy.Holds alloc policy.maxSize.toNat := by
    refine ⟨policy.maxSize, Or.inr ⟨granted, ?_⟩, Nat.le_refl _⟩
    rw [if_pos small]
    exact ⟨whole, UInt64.le_refl _⟩
  have isRoom : ∀ size, policy.Holds alloc size ↔ size ≤ policy.maxSize.toNat :=
    fun size => ⟨fun holds => holds.le_maxSize, fun below => reached.mono below⟩
  rw [capSpares_iff smaller isRoom]
  rintro before item after rfl - fits
  rw [List.forall_mem_append, List.forall_mem_cons] at all
  obtain ⟨earlier, this, -⟩ := all
  rwa [List.map_congr_left earlier, this] at fits

end

theorem Ready.data_admitted_eq_iff (ready : Ready policy alloc buffer) (empty : buffer.data = [])
    (smaller : CapacityPolicy.GrantsSmaller alloc) (cap : Nat) (pieces : List Bytes) :
    ((admitted cap pieces).foldl (appendUnder alloc) buffer).data =
        (pieces.foldl (appendUnder alloc) (newUnder alloc policy)).data ↔
      CapSpares alloc policy cap id id pieces := by
  have priced : Priced (id : Bytes → Bytes) id := fun _ => Or.inl rfl
  have passed : (admitted cap pieces).map id = admitted cap (pieces.map id) := by
    rw [List.map_id, List.map_id]
  have exact_iff := ready.data_capped_eq_iff empty smaller priced Function.injective_id passed
  rwa [List.map_id, List.map_id] at exact_iff

theorem CapSpares.data_capped_append_eq {cap : Nat} {pieces more : List Bytes}
    (spares : CapSpares alloc policy cap id id (pieces ++ more)) (ready : Ready policy alloc buffer)
    (empty : buffer.data = []) (smaller : CapacityPolicy.GrantsSmaller alloc) :
    ((admitted cap pieces ++ more).foldl (appendUnder alloc) buffer).data =
      ((pieces ++ more).foldl (appendUnder alloc) (newUnder alloc policy)).data := by
  have stable := stable_ready policy alloc
  have same := (ready.data_admitted_eq_iff empty smaller cap pieces).mpr spares.left
  rw [List.foldl_append, List.foldl_append]
  exact (stable.foldl_append ready _).data_foldl_append_eq smaller
    (stable.foldl_append (ready_new policy alloc) _) same more

end OutputBuffer

end ScriptBridge
