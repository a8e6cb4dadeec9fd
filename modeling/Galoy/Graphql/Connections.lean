import Mathlib.Data.List.Basic
import Mathlib.Data.List.Nodup

set_option autoImplicit false

namespace Galoy

variable {T : Type}

/-- Both `null` and `undefined` are `none`. -/
structure ConnectionArguments where
  after : Option String := none
  before : Option String := none
  first : Option Int := none
  last : Option Int := none
  deriving DecidableEq, Repr

structure Edge (T : Type) where
  cursor : String
  node : T
  deriving DecidableEq, Repr

structure PageInfo where
  startCursor : Option String
  endCursor : Option String
  hasPreviousPage : Bool
  hasNextPage : Bool
  deriving DecidableEq, Repr

structure Connection (T : Type) where
  edges : List (Edge T)
  pageInfo : PageInfo
  deriving DecidableEq, Repr

def findIndex (array : List T) (test : T → Bool) : Int :=
  match array.findIdx? test with
  | some index => index
  | none => -1

def slice (array : List T) (startOffset endOffset : Int) : List T :=
  (array.drop startOffset.toNat).take (endOffset.toNat - startOffset.toNat)

-- An empty cursor is not looked for.
def cursorOffset (id : T → String) (array : List T) (cursor : Option String)
    (default : Int) : Int :=
  match cursor with
  | none => default
  | some cursor => if cursor = "" then default else findIndex array fun obj => id obj = cursor

def edgesOf (id : T → String) (page : List T) : List (Edge T) :=
  page.map fun obj => { cursor := id obj, node := obj }

@[simp] theorem edgesOf_nodes (id : T → String) (page : List T) :
    (edgesOf id page).map Edge.node = page := by
  simp [edgesOf, Function.comp_def]

@[simp] theorem edgesOf_start (id : T → String) (page : List T) :
    (edgesOf id page).head?.map Edge.cursor = page.head?.map id := by
  simp [edgesOf, Function.comp_def]

@[simp] theorem edgesOf_stop (id : T → String) (page : List T) :
    (edgesOf id page).getLast?.map Edge.cursor = page.getLast?.map id := by
  simp [edgesOf, Function.comp_def]

def connectionFromArray (id : T → String) (array : List T) (args : ConnectionArguments) :
    Except String (Connection T) := do
  let arrayLength : Int := array.length
  let startOffset : Int := 0
  let endOffset := arrayLength
  let afterOffset := cursorOffset id array args.after (-1)
  let startOffset :=
    if 0 ≤ afterOffset ∧ afterOffset < arrayLength then max startOffset (afterOffset + 1)
      else startOffset
  let beforeOffset := cursorOffset id array args.before endOffset
  let endOffset :=
    if 0 ≤ beforeOffset ∧ beforeOffset < arrayLength then min endOffset beforeOffset else endOffset
  let endOffset ← match args.first with
    | some first =>
      if first < 0 then throw "Argument \"first\" must be a non-negative integer"
      else pure (min endOffset (startOffset + first))
    | none => pure endOffset
  let startOffset ← match args.last with
    | some last =>
      if last < 0 then throw "Argument \"last\" must be a non-negative integer"
      else pure (max startOffset (endOffset - last))
    | none => pure startOffset
  let edges := edgesOf id (slice array startOffset endOffset)
  let lowerBound := if args.after.isSome then afterOffset + 1 else 0
  let upperBound := if args.before.isSome then beforeOffset else arrayLength
  pure {
    edges
    pageInfo := {
      startCursor := edges.head?.map Edge.cursor
      endCursor := edges.getLast?.map Edge.cursor
      hasPreviousPage := args.last.isSome && lowerBound < startOffset
      hasNextPage := args.first.isSome && endOffset < upperBound } }

def Connection.nodes (connection : Connection T) : List T := connection.edges.map Edge.node

def pagesForward (id : T → String) (array : List T) (pageSize : Nat) :
    Nat → Option String → Option (List (List T))
  | 0, _ => none
  | calls + 1, after =>
    match connectionFromArray id array { after, first := some pageSize } with
    | .error _ => none
    | .ok page =>
      if page.pageInfo.hasNextPage then
        (pagesForward id array pageSize calls page.pageInfo.endCursor).map (page.nodes :: ·)
      else some [page.nodes]

def pagesBackward (id : T → String) (array : List T) (pageSize : Nat) :
    Nat → Option String → Option (List (List T))
  | 0, _ => none
  | calls + 1, before =>
    match connectionFromArray id array { before, last := some pageSize } with
    | .error _ => none
    | .ok page =>
      if page.pageInfo.hasPreviousPage then
        (pagesBackward id array pageSize calls page.pageInfo.startCursor).map (page.nodes :: ·)
      else some [page.nodes]

section Offsets

variable {id : T → String} {array : List T}

structure Identified (id : T → String) (array : List T) : Prop where
  distinct : (array.map id).Nodup
  nonempty : ∀ obj ∈ array, id obj ≠ ""

theorem Identified.offset (identified : Identified id array) {index : Nat}
    (within : index < array.length) (default : Int) :
    cursorOffset id array (some (id array[index])) default = index := by
  have found : array.findIdx? (fun obj => id obj = id array[index]) = some index := by
    rw [List.findIdx?_eq_some_iff_getElem]
    refine ⟨within, by simp, fun earlier before => ?_⟩
    have earlierWithin : earlier < (array.map id).length := by
      simp only [List.length_map]
      omega
    have indexWithin : index < (array.map id).length := by simpa using within
    have same : (array.map id)[earlier] = (array.map id)[index] ↔ earlier = index :=
      identified.distinct.getElem_inj_iff
    simp only [List.getElem_map] at same
    simp only [same, decide_eq_true_eq]
    omega
  have nonempty := identified.nonempty array[index] (List.getElem_mem within)
  simp [cursorOffset, findIndex, nonempty, found]

theorem Identified.after_offset (identified : Identified id array) {shown : Nat}
    (within : shown ≤ array.length) :
    cursorOffset id array ((array.take shown).getLast?.map id) (-1) = shown - 1 := by
  cases shown with
  | zero => simp [cursorOffset]
  | succ index =>
    have isLast : (array.take (index + 1)).getLast? = some array[index] := by
      simp [List.getLast?_take]
    rw [isLast, Option.map_some, identified.offset]
    simp

theorem Identified.before_offset (identified : Identified id array) {left : Nat}
    (within : left ≤ array.length) :
    cursorOffset id array ((array.drop left).head?.map id) array.length = left := by
  rcases Nat.eq_or_lt_of_le within with rfl | within
  · simp [cursorOffset]
  · have isHead : (array.drop left).head? = some array[left] := by
      simp [List.head?_drop]
    rw [isHead, Option.map_some, identified.offset within]

end Offsets

def pageCount (length pageSize : Nat) : Nat :=
  if length = 0 then 1 else (length + pageSize - 1) / pageSize

section Count

variable {length pageSize : Nat} (positive : 1 ≤ pageSize)

include positive

theorem pageCount_last (fits : length ≤ pageSize) : pageCount length pageSize = 1 := by
  unfold pageCount
  split
  · rfl
  · apply Nat.div_eq_of_lt_le <;> omega

theorem pageCount_more (more : pageSize < length) :
    pageCount length pageSize = pageCount (length - pageSize) pageSize + 1 := by
  unfold pageCount
  rw [if_neg (by omega), if_neg (by omega)]
  have split : length + pageSize - 1 = (length - pageSize + pageSize - 1) + pageSize := by omega
  rw [split, Nat.add_div_right _ positive]

theorem pageCount_pos (length : Nat) : 1 ≤ pageCount length pageSize := by
  by_cases fits : length ≤ pageSize
  · exact Nat.le_of_eq (pageCount_last positive fits).symm
  · rw [pageCount_more positive (by omega)]
    omega

end Count

section Pages

variable {id : T → String} {array : List T} (identified : Identified id array)

include identified

theorem forward_page (pageSize : Nat) {shown : Nat} (within : shown ≤ array.length) :
    connectionFromArray id array { after :=
      (array.take shown).getLast?.map id, first := some pageSize } =
      .ok ⟨edgesOf id ((array.drop shown).take pageSize),
        ⟨((array.drop shown).take pageSize).head?.map id,
          ((array.drop shown).take pageSize).getLast?.map id, false,
          decide (shown + pageSize < array.length)⟩⟩ := by
  have offset := identified.after_offset within
  have start : (if 0 ≤ (shown : Int) - 1 ∧ (shown : Int) - 1 < array.length
      then max 0 ((shown : Int) - 1 + 1) else 0) = shown := by
    split <;> omega
  have stop : min (array.length : Int) (shown + pageSize) =
      (min array.length (shown + pageSize) : Nat) := by
    omega
  have page : slice array shown (min array.length (shown + pageSize) : Nat) =
      (array.drop shown).take pageSize := by
    unfold slice
    rw [Int.toNat_natCast, Int.toNat_natCast, List.take_eq_take_iff, List.length_drop]
    omega
  have more : (min array.length (shown + pageSize) < array.length) ↔
      shown + pageSize < array.length := by
    omega
  have nonneg : ¬(pageSize : Int) < 0 := by omega
  unfold connectionFromArray
  simp only [offset, start]
  simp only [cursorOffset, nonneg, bind, Except.bind, pure, Except.pure, ↓reduceIte,
    Int.natCast_nonneg, Int.lt_irrefl, and_false, stop, page, edgesOf_start, edgesOf_stop,
    Option.isSome_none, Option.isSome_some,
    Bool.false_and, Bool.true_and, Bool.false_eq_true, Int.ofNat_lt, more]

theorem backward_page (pageSize : Nat) {left : Nat} (within : left ≤ array.length) :
    connectionFromArray id array { before := (array.drop left).head?.map id, last := some pageSize
      } =
      .ok ⟨edgesOf id ((array.take left).drop (left - pageSize)),
        ⟨((array.take left).drop (left - pageSize)).head?.map id,
          ((array.take left).drop (left - pageSize)).getLast?.map id,
          decide (pageSize < left), false⟩⟩ := by
  have offset := identified.before_offset within
  have stop : (if 0 ≤ (left : Int) ∧ (left : Int) < array.length then min (array.length : Int) left
      else array.length) = left := by
    split <;> omega
  have start : max 0 ((left : Int) - pageSize) = (left - pageSize : Nat) := by
    omega
  have page : slice array (left - pageSize : Nat) left =
      (array.take left).drop (left - pageSize) := by
    unfold slice
    rw [Int.toNat_natCast, Int.toNat_natCast, List.drop_take]
  have more : (0 < left - pageSize) ↔ pageSize < left := by
    omega
  have nonneg : ¬(pageSize : Int) < 0 := by omega
  unfold connectionFromArray
  simp only [offset, stop]
  simp [cursorOffset, nonneg, bind, Except.bind, pure, Except.pure, start, page, more]

theorem forward_pages {pageSize : Nat} (positive : 1 ≤ pageSize) {shown : Nat}
    (within : shown ≤ array.length) {calls : Nat}
    (enough : pageCount (array.length - shown) pageSize ≤ calls) :
    ∃ pages, pagesForward id array pageSize calls ((array.take shown).getLast?.map id) =
      some pages ∧
      pages.flatten = array.drop shown ∧ pages.length = pageCount (array.length - shown)
        pageSize := by
  induction calls generalizing shown with
  | zero =>
    have := pageCount_pos positive (array.length - shown)
    omega
  | succ calls ih =>
    unfold pagesForward
    simp only [forward_page identified pageSize
      within, decide_eq_true_eq, Connection.nodes, edgesOf_nodes]
    by_cases more : shown + pageSize < array.length
    · have count := pageCount_more positive (show pageSize < array.length - shown by omega)
      have rest : array.length - shown - pageSize = array.length - (shown + pageSize) := by omega
      rw [rest] at count
      have cursor : ((array.drop shown).take pageSize).getLast? =
          (array.take (shown + pageSize)).getLast? := by
        have page : (array.drop shown).take pageSize ≠ [] := by
          apply List.ne_nil_of_length_pos
          simp only [List.length_take, List.length_drop]
          omega
        rw [List.take_add, List.getLast?_append_of_ne_nil _ page]
      obtain ⟨pages, asked, shows, counted⟩ :=
        ih (show shown + pageSize ≤ array.length by omega) (by omega)
      rw [if_pos more, cursor, asked]
      refine ⟨_, rfl, ?_, ?_⟩
      · rw [List.flatten_cons, shows, ← List.drop_drop, List.take_append_drop]
      · rw [List.length_cons, counted, count]
    · rw [if_neg more]
      refine ⟨_, rfl, ?_, ?_⟩
      · simp only [List.flatten_cons, List.flatten_nil, List.append_nil]
        apply List.take_of_length_le
        rw [List.length_drop]
        omega
      · rw [pageCount_last positive (by omega)]
        rfl

theorem backward_pages {pageSize : Nat} (positive : 1 ≤ pageSize) {left : Nat}
    (within : left ≤ array.length) {calls : Nat} (enough : pageCount left pageSize ≤ calls) :
    ∃ pages, pagesBackward id array pageSize calls ((array.drop left).head?.map id) = some pages ∧
      pages.reverse.flatten = array.take left ∧ pages.length = pageCount left pageSize := by
  induction calls generalizing left with
  | zero =>
    have := pageCount_pos positive left
    omega
  | succ calls ih =>
    unfold pagesBackward
    simp only [backward_page identified pageSize
      within, decide_eq_true_eq, Connection.nodes, edgesOf_nodes]
    by_cases more : pageSize < left
    · have count := pageCount_more positive more
      have cursor : ((array.take left).drop (left - pageSize)).head? =
          (array.drop (left - pageSize)).head? := by
        rw [List.drop_take, List.head?_take, if_neg (by omega)]
      obtain ⟨pages, asked, shows, counted⟩ :=
        ih (show left - pageSize ≤ array.length by omega) (by omega)
      rw [if_pos more, cursor, asked]
      refine ⟨_, rfl, ?_, ?_⟩
      · have earlier : array.take (left - pageSize) = (array.take left).take (left - pageSize) := by
          rw [List.take_take, Nat.min_eq_left (Nat.sub_le left pageSize)]
        simp only [List.reverse_cons, List.flatten_append, shows, List.flatten_cons,
          List.flatten_nil, List.append_nil]
        rw [earlier, List.take_append_drop]
      · rw [List.length_cons, counted, count]
    · rw [if_neg more]
      have none : left - pageSize = 0 := by omega
      refine ⟨_, rfl, ?_, ?_⟩
      · simp [none]
      · rw [pageCount_last positive (by omega)]
        rfl

end Pages

theorem pages_show_the_array (id : T → String) (array : List T) (distinct : (array.map id).Nodup)
    (nonempty : ∀ obj ∈ array, id obj ≠ "") (pageSize : Nat) (positive : 1 ≤ pageSize) (calls : Nat)
    (enough : pageCount array.length pageSize ≤ calls) :
    (∃ pages, pagesForward id array pageSize calls none = some pages ∧ pages.flatten = array ∧
      pages.length = pageCount array.length pageSize) ∧
    ∃ pages, pagesBackward id array pageSize calls none = some pages ∧
      pages.reverse.flatten = array ∧
      pages.length = pageCount array.length pageSize := by
  have identified : Identified id array := ⟨distinct, nonempty⟩
  constructor
  · simpa using forward_pages identified positive (Nat.zero_le _) enough
  · simpa using backward_pages identified positive (Nat.le_refl _) enough

theorem three_ids_in_two_pages :
    (∃ pages, pagesForward (fun name => name) ["a", "b", "c"] 2 2 none = some pages ∧
      pages.flatten = ["a", "b", "c"] ∧ pages.length = 2) ∧
    ∃ pages, pagesBackward (fun name => name) ["a", "b", "c"] 2 2 none = some pages ∧
      pages.reverse.flatten = ["a", "b", "c"] ∧ pages.length = 2 :=
  pages_show_the_array (fun name => name) ["a", "b", "c"] (by decide) (by decide) 2
    (by decide) 2 (by decide)

theorem pagesForward_repeats {id : T → String} {array : List T} {pageSize : Nat}
    {after : Option String} {page : Connection T}
    (shown : connectionFromArray id array { after, first := some pageSize } = .ok page)
    (more : page.pageInfo.hasNextPage) (same : page.pageInfo.endCursor = after) (calls : Nat) :
    pagesForward id array pageSize calls after = none := by
  induction calls with
  | zero => rfl
  | succ calls ih => simp [pagesForward, shown, more, same, ih]

theorem pagesForward_repeated_id {id : T → String} {first second third : T}
    (nonempty : id first ≠ "") (secondSame : id second = id first) (calls : Nat) :
    pagesForward id [first, second, third] 1 calls none = none := by
  have firstPage : connectionFromArray id [first, second, third] { first := some (1 : Nat) } =
      .ok ⟨[⟨id first, first⟩], ⟨some (id first), some (id first), false, true⟩⟩ := rfl
  have offset : cursorOffset id [first, second, third] (some (id first)) (-1) = 0 := by
    simp [cursorOffset, findIndex, nonempty, List.findIdx?_cons]
  have secondPage : connectionFromArray id [first, second, third]
      { after := some (id first), first := some (1 : Nat) } =
      .ok ⟨[⟨id first, second⟩], ⟨some (id first), some (id first), false, true⟩⟩ := by
    unfold connectionFromArray
    simp only [offset]
    rw [← secondSame]
    rfl
  cases calls with
  | zero => rfl
  | succ calls =>
    unfold pagesForward
    rw [firstPage]
    simp [pagesForward_repeats secondPage rfl rfl]

end Galoy
