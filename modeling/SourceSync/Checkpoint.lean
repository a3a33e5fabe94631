/-
When cursor state is published while a stream is still being read: after every
`interval` records of a stream that saves its state continuously. An interval of
zero publishes nothing before the end.
-/

namespace SourceSync

/-- The number of records between two checkpoints of a stream. -/
structure CheckpointPolicy where
  interval : Nat
  deriving DecidableEq, Repr

namespace CheckpointPolicy

/-- The policy used unless another one is chosen. -/
def standard : CheckpointPolicy := ⟨100⟩

instance : Inhabited CheckpointPolicy := ⟨standard⟩

/-- No checkpoint before the end of a stream. -/
def disabled : CheckpointPolicy := ⟨0⟩

/-- Whether a checkpoint is due after the `records`-th record. -/
def isDue (p : CheckpointPolicy) (continuous : Bool) (records : Nat) : Bool :=
  continuous && decide (0 < p.interval) && decide (0 < records) && records % p.interval == 0

/-- A checkpoint is due exactly at the positive multiples of a positive interval. -/
theorem isDue_iff (p : CheckpointPolicy) (continuous : Bool) (records : Nat) :
    p.isDue continuous records = true ↔
      continuous = true ∧ 0 < p.interval ∧ 0 < records ∧ records % p.interval = 0 := by
  simp [isDue, and_assoc]

end CheckpointPolicy

end SourceSync
