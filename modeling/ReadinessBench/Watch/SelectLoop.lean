import ReadinessBench.Descriptor.Set
import ReadinessBench.Watch.Duty

/-!
# Waiting with select

The worker hands the kernel the set of all its descriptors and gets back the set of the readable
ones. The kernel overwrites the set, so it is built anew for every wait.
-/

namespace ReadinessBench.SelectLoop

def interest (stopNumber : Nat) (watched : List Watched) : DescriptorSet :=
  DescriptorSet.ofList (stopNumber :: watched.map Watched.number)

def scanBound (stopNumber : Nat) (watched : List Watched) : Nat :=
  DescriptorSet.bound (watched.map Watched.number ++ [stopNumber])

/-- Handles one wake-up with the set of readable descriptors. -/
def wake (readable : DescriptorSet) (stopNumber : Nat) (d : Duty) : Verdict × Duty :=
  let (ended, d) := if readable.contains stopNumber then d.acknowledge else (false, d)
  if ended then (.exit, d)
  else
    (.goOn, d.watched.foldl
      (fun d w => if readable.contains w.number then d.echo w.pair else d) d)

end ReadinessBench.SelectLoop
