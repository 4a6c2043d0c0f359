import HilRig.Api.Compilation
import HilRig.Foundations.Grouping

/-!
# The views of a schedule

A compiled test has the instructions of a test once as a list and once in time slots, and the list
under construction offers both views of its own, from a sort by timestamp alone. In a reachable test
the identifiers ascend in the order of insertion, so that a stable sort by timestamp is a sort by
timestamp and identifier, and all four views are of one order (`scheduleViews_of_compile`).
-/

set_option autoImplicit false
set_option relaxedAutoImplicit false

namespace HilRig.Api

open HilRig.Models HilRig.Foundations

/-- The views of the instructions of a test and of a compiled plan are those of one order. -/
structure ScheduleViews (instructions order : List Instruction) (plan : CompiledTestIR) :
    Prop where
  perm : order.Perm instructions
  sorted : order.Pairwise fun first second ↦
    first.timestamp < second.timestamp ∨
      first.timestamp = second.timestamp ∧ first.instructionId < second.instructionId
  compiled : plan.instructions = order.map compiledInstruction
  ascending : (plan.timeSlots.map TimeSlot.timestamp).Pairwise (· < ·)
  nonempty : ∀ slot ∈ plan.timeSlots, slot.instructions ≠ []
  timestamps : ∀ slot ∈ plan.timeSlots, ∀ instruction ∈ slot.instructions,
    instruction.timestamp = slot.timestamp
  concat : plan.timeSlots.flatMap TimeSlot.instructions = order
  ordered : InstructionList.ordered instructions = order
  groups : OrderedDict.ofEntries
      (plan.timeSlots.map fun slot ↦ (slot.timestamp, slot.instructions)) =
    InstructionList.groupByTimestamp instructions

section Sorting

variable {test : Test} (hsequential : test.Sequential)

include hsequential

/-- Sorting by timestamp alone already sorts by timestamp and identifier. -/
theorem ordered_eq_sortedInstructions :
    InstructionList.ordered test.instructions = sortedInstructions test.instructions := by
  refine insertionSort_congr (hsequential.pairwise_instructionId.imp fun {first second} hlt ↦ ?_)
  simp only [instructionLE, decide_eq_true_eq]
  omega

/-- No two instructions of a test have the same place in the order. -/
theorem pairwise_lt_sortedInstructions :
    (sortedInstructions test.instructions).Pairwise fun first second ↦
      first.timestamp < second.timestamp ∨
        first.timestamp = second.timestamp ∧ first.instructionId < second.instructionId := by
  have hdistinct : (sortedInstructions test.instructions).Pairwise fun first second ↦
      first.instructionId ≠ second.instructionId :=
    (hsequential.pairwise_instructionId.imp ne_of_lt).perm
      (List.perm_insertionSort _ test.instructions).symm fun hne ↦ hne.symm
  refine ((pairwise_instructionLE test.instructions).and hdistinct).imp fun {first second} h ↦ ?_
  obtain ⟨hle, hne⟩ := h
  simp only [instructionLE, decide_eq_true_eq] at hle
  omega

end Sorting

/-- The time slots of a sorted list of instructions are its groups. -/
theorem grouped_groupByTimestamp (instructions : List Instruction) :
    Grouped Instruction.timestamp (sortedInstructions instructions)
      (groupByTimestamp (sortedInstructions instructions)) :=
  grouped_foldl_push (pairwise_sortedInstructions instructions)

/-- All views of the schedule of a compiled test agree. -/
theorem scheduleViews_of_compile {test after : Test} (hreachable : test.Reachable)
    {plan : CompiledTestIR} (hcompiled : compile test = .ok plan after) :
    ∃ order, ScheduleViews test.instructions order plan := by
  have hsequential := sequential_of_reachable hreachable
  have hordered := ordered_eq_sortedInstructions hsequential
  have hgrouped := grouped_groupByTimestamp test.instructions
  obtain rfl := plan_of_compile hreachable hcompiled
  have hslots : test.plan.timeSlots =
      (groupByTimestamp (sortedInstructions test.instructions)).map fun group ↦
        ⟨group.1, group.2⟩ := rfl
  refine ⟨sortedInstructions test.instructions, ⟨List.perm_insertionSort _ _,
    pairwise_lt_sortedInstructions hsequential, rfl, ?_, ?_, ?_, ?_, hordered, ?_⟩⟩
  · rw [hslots, List.map_map]
    exact hgrouped.ascending
  · intro slot hslot
    rw [hslots] at hslot
    obtain ⟨group, hgroup, rfl⟩ := List.mem_map.1 hslot
    exact hgrouped.nonempty group hgroup
  · intro slot hslot
    rw [hslots] at hslot
    obtain ⟨group, hgroup, rfl⟩ := List.mem_map.1 hslot
    exact hgrouped.keys group hgroup
  · rw [hslots, List.flatMap_map]
    exact hgrouped.concat
  · rw [hslots, List.map_map]
    show OrderedDict.ofEntries ((groupByTimestamp _).map id) = _
    rw [List.map_id, OrderedDict.ofEntries_of_nodup (hgrouped.ascending.imp ne_of_lt),
      InstructionList.groupByTimestamp, hordered]
    rfl

theorem scheduleViews_fanTest : ∃ order, ScheduleViews fanTest.instructions order fanTest.plan :=
  scheduleViews_of_compile reachable_fanTest compile_fanTest

end HilRig.Api
