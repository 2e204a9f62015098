import ChatServer.Action.Handling

/-!
# The server

What all connections share: the store and the registry. A frame is answered by
running its plan on the store and delivering the reply.
-/
namespace ChatServer

open ChatServer.Action Delivery Store

structure Server where
  database : Database
  registry : Registry

namespace Server

/-- Delivers a reply; gives the number of sessions that it was queued for. The
envelope is written once, and all of them get the same text. -/
def deliver (sv : Server) (reply : Reply) : Nat × Server :=
  let (count, registry) := sv.registry.deliver reply.audience reply.envelope.text
  (count, { sv with registry })

/-- Answers a text frame of a session. The plan of the frame runs on the store
alone, and its reply goes to the sessions that are registered then. -/
def handleText (sv : Server) (s : Session) (d : Draw) (text : String) : Nat × Server :=
  let (reply, database) := (respond s d.now text).run d sv.database
  ({ sv with database } : Server).deliver reply

/-- Answers a frame of a session that cannot be read at all. The store is not
asked. -/
def reject (sv : Server) (s : Session) (message : String) : Nat × Server :=
  sv.deliver (.unreadable s message)

/-- Registers a session; gives the number of its link. Fails when its queue
cannot be made. -/
def register (sv : Server) (s : Session) : Except RegistrationFault (Nat × Server) :=
  if sv.registry.canRegister then
    let (link, registry) := sv.registry.register s.id s.userId
    .ok (link, { sv with registry })
  else .error .queueTooLong

/-- Removes a session; tells whether it was live. -/
def unregister (sv : Server) (id : Uuid) : Bool × Server :=
  let (found, registry) := sv.registry.unregister id
  (found, { sv with registry })

def closeAll (sv : Server) : Server := { sv with registry := sv.registry.closeAll }

end Server
end ChatServer

