import GpuReservation.Model.Admission

/-!
# What the changes of the state leave alone
-/

namespace GpuReservation.Proofs

open GpuReservation.Library GpuReservation.Model

variable (s : ControllerState)

/-- A release is a change of the occupancy map. -/
lemma releasePod_eq (uid : Uid) :
    ∃ occupancy, s.releasePod uid = { s with occupancy := occupancy } := by
  rw [ControllerState.releasePod]
  split
  · exact ⟨_, rfl⟩
  · exact ⟨_, rfl⟩

/-- What a pod holds is a matter of the nodes. -/
lemma setGpuPod_eq (uid : Uid) (record : Option GpuPod) (now : Instant) :
    ∃ pods changes byNode byClass, s.setGpuPod uid record now =
      { s with
        gpuPods := pods
        gpuPodChanges := changes
        nodeFreeByNodeClass := byNode
        nodeFreeByClass := byClass } := by
  unfold ControllerState.setGpuPod
  dsimp only
  split
  · exact ⟨_, _, _, _, rfl⟩
  · exact ⟨_, _, _, _, rfl⟩

lemma noteAdmitted_eq (uid : Uid) (e : QueueEntry) (pod : Pod) (now : Instant) :
    ∃ pods changes byNode byClass, s.noteAdmitted uid e pod now =
      { s with
        gpuPods := pods
        gpuPodChanges := changes
        nodeFreeByNodeClass := byNode
        nodeFreeByClass := byClass } := by
  rw [ControllerState.noteAdmitted]
  split
  · exact ⟨_, _, _, _, rfl⟩
  · exact setGpuPod_eq s uid _ now

@[simp] lemma entry_releasePod (uid : Uid) (ref : Ref) :
    (s.releasePod uid).entry ref = s.entry ref := by
  obtain ⟨_, h⟩ := releasePod_eq s uid
  rw [h]
  rfl

@[simp] lemma entry_noteAdmitted (uid : Uid) (e : QueueEntry) (pod : Pod) (now : Instant)
    (ref : Ref) : (s.noteAdmitted uid e pod now).entry ref = s.entry ref := by
  obtain ⟨_, _, _, _, h⟩ := noteAdmitted_eq s uid e pod now
  rw [h]
  rfl

@[simp] lemma bucket_noteAdmitted (uid : Uid) (e : QueueEntry) (pod : Pod) (now : Instant)
    (rid : Nat) : (s.noteAdmitted uid e pod now).bucket rid = s.bucket rid := by
  obtain ⟨_, _, _, _, h⟩ := noteAdmitted_eq s uid e pod now
  rw [h]
  rfl

/-- A field of the entries which the change leaves alone. -/
lemma entry_modifyEntry_field {β : Type*} (field : QueueEntry → β) {f : QueueEntry → QueueEntry}
    (hf : ∀ e, field (f e) = field e) (ref ref' : Ref) :
    field ((s.modifyEntry ref f).entry ref') = field (s.entry ref') :=
  Heap.read_modify_field field hf s.entries ref ref'

end GpuReservation.Proofs
