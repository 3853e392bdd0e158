import DisStore.Protocol

/-!
# Registered memory

The daemon registers a slab with the network card when it gives it to a connection, and takes
the registration back when the slab is returned; `mr_list` has the registrations. The block
devices send BIND_SINGLE only, so `send_mr` does not occur.
-/

namespace DisStore

structure Registered where
  proto : Protocol
  mrList : Nat → Option MemRegion

def registeredInit (cfg : ProtocolCfg) (freeMemG : Int) : Registered where
  proto := protocolInit cfg freeMemG
  mrList := fun _ => none

/-- `ibv_reg_mr` in `send_single_mr`, for the slab that the loop finds. -/
def registerSlab (cfg : DaemonConfig) (mr : Nat → MemRegion) (d : DaemonState)
    (mrList : Nat → Option MemRegion) : Nat → Option MemRegion :=
  match (List.range cfg.maxFreeMemGb).find? d.freeSlab with
  | some i => Function.update mrList i (some (mr i))
  | none => mrList

/-- `ibv_dereg_mr` in `recv_done`, for the slabs of the flagged slots. -/
def deregisterSlabs (cfg : DaemonConfig) (conn : Connection) (msg : Message)
    (mrList : Nat → Option MemRegion) : Nat → Option MemRegion :=
  (flaggedSlots cfg msg).foldl
    (fun mrList slot => Function.update mrList (conn.sessChunkMap slot).toNat none) mrList

/-- The registrations after a message of `id` has been handled. -/
def registerMessage (cfg : DaemonConfig) (mr : Nat → MemRegion) (d : DaemonState) (id : ConnId)
    (msg : Message) (mrList : Nat → Option MemRegion) : Nat → Option MemRegion :=
  match msg.type, d.heap id with
  | .bindSingle, _ => registerSlab cfg mr d mrList
  | .done, some conn => deregisterSlabs cfg conn msg mrList
  | _, _ => mrList

def registeredStep (cfg : ProtocolCfg) (s : Registered) (e : ProtocolEvent) : Option Registered := do
  let proto ← protocolStep cfg s.proto e
  let mrList := match e with
    | .serve id mr =>
      match (s.proto.peers id).toDaemon with
      | [] => s.mrList
      | msg :: _ => registerMessage cfg.daemon mr s.proto.daemon id msg s.mrList
    | _ => s.mrList
  some ⟨proto, mrList⟩

end DisStore
