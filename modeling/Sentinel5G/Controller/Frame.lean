import Sentinel5G.Controller.World

namespace Sentinel5G.Controller

open Base Api Ebpf

def anyChoice : World → Choice → Prop := fun _ _ => True

theorem permits_any {α : Type} (program : Action α) (script : Nat → Choice) (world : World) :
    program.Permits exec anyChoice script world :=
  Program.permits_of_forall program world (fun _ _ => trivial)

def faultless : World → Choice → Prop := fun _ choice => choice.fault = .none

theorem permits_faultless {α : Type} (program : Action α) (script : Nat → Choice) (world : World)
    (quiet : ∀ n, (script n).fault = .none) : program.Permits exec faultless script world :=
  Program.permits_of_forall program world (fun _ n => quiet n)

def Op.WritesServer : Op → Prop
  | .updateStatus _ => True
  | .update _ => True
  | _ => False

def Op.WritesKernel : Op → Prop
  | .block _ => True
  | .unblock _ => True
  | .blockTunnel _ _ => True
  | .unblockTunnel _ _ => True
  | _ => False

def Op.WritesMesh : Op → Prop
  | .meshCreate _ => True
  | .meshUpdate _ => True
  | .meshDelete _ => True
  | _ => False

def Op.WritesIndex : Op → Prop
  | .indexPut _ => True
  | .indexRemove _ => True
  | _ => False

section Write

variable {α : Type} (choice : Choice) (world : World) (effect : Except Err α × World)

theorem write_state : (choice.write world effect).2 = world ∨
    (choice.write world effect).2 = effect.2 := by
  rw [Choice.write]
  split
  · exact .inr rfl
  · exact .inl rfl
  · exact .inr rfl

theorem write_ok {value : α} (accepted : (choice.write world effect).1 = .ok value) :
    choice.write world effect = effect := by
  rw [Choice.write] at accepted ⊢
  split at accepted
  · rfl
  · cases accepted
  · cases accepted

theorem write_preserves {β : Type} (field : World → β) (kept : field effect.2 = field world) :
    field (choice.write world effect).2 = field world := by
  rcases write_state choice world effect with unchanged | applied
  · rw [unchanged]
  · rw [applied, kept]

end Write

theorem read_ok {α : Type} {choice : Choice} {result value : α}
    (answered : choice.read (.ok result) = .ok value) : value = result := by
  rw [Choice.read] at answered
  split at answered <;> cases answered
  rfl

section Syscall

variable (choice : Choice) (world : World) (result : Except Err Loader)

theorem syscall_cases :
    (∃ err, choice.syscall world result = (.error err, world)) ∨
    ∃ loader, result = .ok loader ∧
      choice.syscall world result = (.ok (), { world with loader := loader }) := by
  rw [Choice.syscall]
  split
  · exact .inl ⟨_, rfl⟩
  · rename_i loader read
    refine .inr ⟨loader, ?_, rfl⟩
    rw [Choice.read] at read
    split at read
    · exact read
    · cases read
    · cases read

theorem syscall_preserves {β : Type} (field : World → β)
    (kept : ∀ loader, field { world with loader := loader } = field world) :
    field (choice.syscall world result).2 = field world := by
  rcases syscall_cases choice world result with ⟨err, failed⟩ | ⟨loader, -, done⟩
  · rw [failed]
  · rw [done]
    exact kept loader

end Syscall

theorem exec_server (choice : Choice) (op : Op) (world : World) (frame : ¬ op.WritesServer) :
    (exec choice op world).2.server = world.server := by
  cases op <;> first
    | rfl
    | exact absurd trivial frame
    | exact syscall_preserves choice world _ World.server (fun _ => rfl)
    | exact write_preserves choice world _ World.server rfl

theorem exec_loader (choice : Choice) (op : Op) (world : World) (frame : ¬ op.WritesKernel) :
    (exec choice op world).2.loader = world.loader := by
  cases op <;> first
    | rfl
    | exact absurd trivial frame
    | exact write_preserves choice world _ World.loader rfl

theorem exec_mesh (choice : Choice) (op : Op) (world : World) (frame : ¬ op.WritesMesh) :
    (exec choice op world).2.mesh = world.mesh := by
  cases op <;> first
    | rfl
    | exact absurd trivial frame
    | exact syscall_preserves choice world _ World.mesh (fun _ => rfl)
    | exact write_preserves choice world _ World.mesh rfl

theorem exec_index (choice : Choice) (op : Op) (world : World) (frame : ¬ op.WritesIndex) :
    (exec choice op world).2.index = world.index := by
  cases op <;> first
    | rfl
    | exact absurd trivial frame
    | exact syscall_preserves choice world _ World.index (fun _ => rfl)
    | exact write_preserves choice world _ World.index rfl

theorem exec_clock (choice : Choice) (op : Op) (world : World) :
    (exec choice op world).2.clock = world.clock := by
  cases op <;> first
    | rfl
    | exact syscall_preserves choice world _ World.clock (fun _ => rfl)
    | exact write_preserves choice world _ World.clock rfl

theorem exec_engaged (choice : Choice) (op : Op) (world : World) :
    (exec choice op world).2.engaged = world.engaged := by
  cases op <;> first
    | rfl
    | exact syscall_preserves choice world _ World.engaged (fun _ => rfl)
    | exact write_preserves choice world _ World.engaged rfl

theorem exec_allows (choice : Choice) (op : Op) (world : World) :
    (exec choice op world).2.allows = world.allows := by
  cases op <;> first
    | rfl
    | exact syscall_preserves choice world _ World.allows (fun _ => rfl)
    | exact write_preserves choice world _ World.allows rfl

theorem exec_pods (choice : Choice) (op : Op) (world : World) :
    (exec choice op world).2.pods = world.pods := by
  cases op <;> first
    | rfl
    | exact syscall_preserves choice world _ World.pods (fun _ => rfl)
    | exact write_preserves choice world _ World.pods rfl

theorem exec_getPolicy_cached {choice : Choice} {key : NamespacedName} {world : World}
    {policy : TelecomSecurityPolicy}
    (answered : (exec choice (.getPolicy key) world).1 = .ok policy) :
    world.server.cached key (choice.lag key) = some policy := by
  dsimp only [exec, Choice.read] at answered
  split at answered
  · split at answered
    · rename_i found
      cases answered
      exact found
    · cases answered
  · cases answered
  · cases answered

theorem exec_getPolicy_key {choice : Choice} {key : NamespacedName} {world : World}
    {policy : TelecomSecurityPolicy}
    (answered : (exec choice (.getPolicy key) world).1 = .ok policy) :
    policy.key = key :=
  world.server.keyed key policy (Server.mem_history_of_cached (exec_getPolicy_cached answered))

theorem exec_getPolicy_ok {choice : Choice} {key : NamespacedName} {world : World}
    {policy : TelecomSecurityPolicy}
    (answered : (exec choice (.getPolicy key) world).1 = .ok policy) :
    some policy ∈ world.server.history policy.key := by
  rw [exec_getPolicy_key answered]
  exact Server.mem_history_of_cached (exec_getPolicy_cached answered)

/-- A kernel call fails and changes nothing, or does what the loader does. -/
theorem exec_block (choice : Choice) (ip : IP) (world : World) :
    (∃ err, exec choice (.block ip) world = (.error err, world)) ∨
    ∃ after address, ip.to16 = some address.val ∧
      Loader.Adds world.loader after (.source address) ∧
      exec choice (.block ip) world = (.ok (), { world with loader := after }) := by
  rcases syscall_cases choice world (world.loader.block ip) with failed | ⟨after, done, same⟩
  · exact .inl failed
  · obtain ⟨address, long, adds⟩ := Loader.block_adds done
    exact .inr ⟨after, address, long, adds, same⟩

theorem exec_blockTunnel (choice : Choice) (ip : IP) (teid : UInt32) (world : World) :
    (∃ err, exec choice (.blockTunnel ip teid) world = (.error err, world)) ∨
    ∃ after address, ip.to16 = some address.val ∧ teid ≠ 0 ∧
      Loader.Adds world.loader after (.tunnel address teid) ∧
      exec choice (.blockTunnel ip teid) world = (.ok (), { world with loader := after }) := by
  rcases syscall_cases choice world (world.loader.blockTunnel ip teid) with
    failed | ⟨after, done, same⟩
  · exact .inl failed
  · obtain ⟨address, long, identified, adds⟩ := Loader.blockTunnel_adds done
    exact .inr ⟨after, address, long, identified, adds, same⟩

theorem exec_unblock (choice : Choice) (ip : IP) (world : World) :
    (∃ err, exec choice (.unblock ip) world = (.error err, world)) ∨
    ∃ after address, ip.to16 = some address.val ∧
      Loader.Removes world.loader after (.source address) ∧
      exec choice (.unblock ip) world = (.ok (), { world with loader := after }) := by
  rcases syscall_cases choice world (world.loader.unblock ip) with failed | ⟨after, done, same⟩
  · exact .inl failed
  · obtain ⟨address, long, removes⟩ := Loader.unblock_removes done
    exact .inr ⟨after, address, long, removes, same⟩

theorem exec_unblockTunnel (choice : Choice) (ip : IP) (teid : UInt32) (world : World) :
    (∃ err, exec choice (.unblockTunnel ip teid) world = (.error err, world)) ∨
    ∃ after address, ip.to16 = some address.val ∧ teid ≠ 0 ∧
      Loader.Removes world.loader after (.tunnel address teid) ∧
      exec choice (.unblockTunnel ip teid) world = (.ok (), { world with loader := after }) := by
  rcases syscall_cases choice world (world.loader.unblockTunnel ip teid) with
    failed | ⟨after, done, same⟩
  · exact .inl failed
  · obtain ⟨address, long, identified, removes⟩ := Loader.unblockTunnel_removes done
    exact .inr ⟨after, address, long, identified, removes, same⟩

end Sentinel5G.Controller
