import UserThreads.Proofs.Frame
import UserThreads.Proofs.Rotation

/-!
Accounts of threads: the numbers of all threads that a runtime still holds, of
those parked on mutexes and of those that are gone.
-/

namespace UserThreads

variable {n k : Nat} {C ν : Type}

/-- The number of a block's thread. -/
def Block.number {κ : Type} (block : Block κ ν) : Nat := block.id.number.toNat

@[simp] theorem Block.number_aged {κ : Type} (block : Block κ ν) (age : Nat) :
    (block.aged age).number = block.number := rfl

@[simp] theorem Block.number_unblock {κ : Type} (block : Block κ ν) :
    block.unblock.number = block.number := by
  rw [number, unblock_id, number]

namespace Machine

@[simp] theorem number_save (machine : Machine n k C ν)
    (scheduler : Scheduler (Context n k C ν) ν) :
    (machine.save scheduler).current.number = scheduler.current.number := rfl

@[simp] theorem ready_save (machine : Machine n k C ν)
    (scheduler : Scheduler (Context n k C ν) ν) :
    (machine.save scheduler).ready = scheduler.ready := rfl

@[simp] theorem completed_save (machine : Machine n k C ν)
    (scheduler : Scheduler (Context n k C ν) ν) :
    (machine.save scheduler).completed = scheduler.completed := rfl

/-- The blocks of all parked threads. -/
def parked (machine : Machine n k C ν) : List (Block (Context n k C ν) ν) :=
  (List.finRange k).flatMap machine.parkedOn

/-- The blocks of the threads in line for the processor. -/
def readyOn (machine : Machine n k C ν) (home : Fin n) : List (Block (Context n k C ν) ν) :=
  match (machine.runtime home).scheduler with
  | none => []
  | some scheduler => scheduler.ready.elements

variable {machine after : Machine n k C ν} {mutex : Fin k}

theorem readyOn_eq {home : Fin n} {scheduler : Scheduler (Context n k C ν) ν}
    (present : (machine.runtime home).scheduler = some scheduler) :
    machine.readyOn home = scheduler.ready.elements := by
  rw [readyOn, present]

theorem mem_parked {block : Block (Context n k C ν) ν} :
    block ∈ machine.parked ↔ ∃ mutex, block ∈ machine.parkedOn mutex := by
  simp [parked, List.mem_flatMap]

theorem parked_congr (same : ∀ mutex, after.parkedOn mutex = machine.parkedOn mutex) :
    after.parked = machine.parked := by
  rw [parked, parked, funext same]

end Machine

theorem count_flatMap_exchange {ι α : Type} [DecidableEq α] (old new : ι → List α) {index : ι}
    (same : ∀ other, other ≠ index → new other = old other) {indices : List ι}
    (distinct : indices.Nodup) (member : index ∈ indices) (value : α) :
    (indices.flatMap new).count value + (old index).count value =
      (indices.flatMap old).count value + (new index).count value := by
  induction indices with
  | nil => simp at member
  | cons first rest ih =>
      obtain ⟨fresh, distinct⟩ := List.nodup_cons.mp distinct
      simp only [List.flatMap_cons, List.count_append]
      by_cases equal : index = first
      · subst equal
        have unchanged : rest.flatMap new = rest.flatMap old := by
          rw [List.flatMap_def, List.flatMap_def, List.map_congr_left]
          exact fun other inside => same other fun equal => fresh (equal ▸ inside)
        rw [unchanged]
        omega
      · have deeper : index ∈ rest := (List.mem_cons.mp member).resolve_left equal
        have exchanged := ih distinct deeper
        rw [same first fun equals => equal equals.symm]
        omega

/-- The threads of a runtime by number: the one that runs, the ready, completed
and parked ones, and those that are `gone`. -/
def accounted (gone : List ThreadId) (machine : Machine n k C ν)
    (scheduler : Scheduler (Context n k C ν) ν) : List Nat :=
  (scheduler.current :: (scheduler.ready.elements ++ scheduler.completed.elements ++
    machine.parked)).map Block.number ++ gone.map fun thread => thread.number.toNat

theorem count_single (held number : Nat) : [held].count number = (held == number).toNat := by
  cases same : held == number <;> simp [List.count_cons, same]

/-- How often a number is held among blocks. -/
def tally (blocks : List (Block (Context n k C ν) ν)) (number : Nat) : Nat :=
  (blocks.map Block.number).count number

section tally

variable {number : Nat}

@[simp] theorem tally_nil : tally ([] : List (Block (Context n k C ν) ν)) number = 0 := rfl

@[simp] theorem tally_cons (first : Block (Context n k C ν) ν)
    (rest : List (Block (Context n k C ν) ν)) :
    tally (first :: rest) number = tally rest number + (first.number == number).toNat := by
  rw [← count_single, tally, List.map_cons, ← List.singleton_append, List.count_append,
    Nat.add_comm, tally]

theorem tally_perm {left right : List (Block (Context n k C ν) ν)} (arranged : left.Perm right) :
    tally left number = tally right number :=
  (arranged.map Block.number).count_eq number

@[simp] theorem tally_insertByAge (block : Block (Context n k C ν) ν)
    (blocks : List (Block (Context n k C ν) ν)) :
    tally (OrderedQueue.insertByAge block blocks) number = tally (block :: blocks) number :=
  tally_perm (OrderedQueue.insertByAge_perm block blocks)

@[simp] theorem tally_makeReady (scheduler : Scheduler (Context n k C ν) ν)
    (block : Block (Context n k C ν) ν) :
    tally (scheduler.makeReady block).ready.elements number =
      tally scheduler.ready.elements number + (block.number == number).toNat := by
  rw [Scheduler.makeReady, OrderedQueue.elements_push, tally_insertByAge, tally_cons]
  rfl

theorem count_accounted (gone : List ThreadId) (machine : Machine n k C ν)
    (scheduler : Scheduler (Context n k C ν) ν) :
    (accounted gone machine scheduler).count number =
      tally [scheduler.current] number + tally scheduler.ready.elements number +
        tally scheduler.completed.elements number + tally machine.parked number +
        (gone.map fun thread => thread.number.toNat).count number := by
  simp [accounted, tally, List.count_cons]
  omega

theorem tally_parked_exchange (number : Nat) {machine after : Machine n k C ν} {mutex : Fin k}
    (same : ∀ other, other ≠ mutex → after.parkedOn other = machine.parkedOn other) :
    tally after.parked number + tally (machine.parkedOn mutex) number =
      tally machine.parked number + tally (after.parkedOn mutex) number := by
  simp only [tally, Machine.parked, List.map_flatMap]
  exact count_flatMap_exchange
    (fun mutex => (machine.parkedOn mutex).map Block.number)
    (fun mutex => (after.parkedOn mutex).map Block.number)
    (fun other apart => congrArg (List.map Block.number) (same other apart))
    (List.nodup_finRange k) (List.mem_finRange mutex) number

end tally

end UserThreads
