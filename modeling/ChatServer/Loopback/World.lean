import ChatServer.Config
import ChatServer.Loopback.Client
import ChatServer.Web.Service

/-!
# A server with its clients in memory

The whole server with connections that do not leave the process and a clock that
is moved by hand. At each moment all that can happen without waiting happens
before the clock moves on (`settle`), and the clock stops at every moment at
which something is due (`advance`). Identifiers and times come from a supply.

* `now_settle`: what happens at a moment does not move the clock.
-/
namespace ChatServer.Loopback

open Account Connection Delivery Socket Store Time Web

/-- Where identifiers and times come from, counted from 0. -/
abbrev Supply := Nat → Draw

structure Setup where
  policy : AccountPolicy
  timing : Timing
  /-- Bytes that a message of a client holds at most. -/
  messageLimit : Nat
  supply : Supply

/-- The periods that a server's settings give to its connections. -/
def timingOf (c : Config) : Timing := ⟨c.heartbeatSeconds * 1000, c.writeTimeoutSeconds * 1000⟩

/-- What a server's settings make of it, unless the life of its tokens cannot be
held. -/
def Setup.ofConfig? (c : Config) (hasher : Hasher) (supply : Supply) : Option Setup :=
  c.tokenSeconds?.map fun seconds =>
    ⟨⟨c.tokenSecret, seconds, hasher⟩, timingOf c, c.maxMessageBytes, supply⟩

structure World where
  setup : Setup
  server : Server
  clients : List Client
  /-- Milliseconds that have passed. -/
  now : Nat
  /-- What has been taken from the supply. -/
  drawn : Nat

namespace World

def start (setup : Setup) (capacity : Nat) (database : Database) : World :=
  ⟨setup, ⟨database, .empty capacity⟩, [], 0, 0⟩

/-- A server with some settings, before any client has come. -/
def ofConfig? (c : Config) (hasher : Hasher) (supply : Supply) (database : Database) :
    Option World :=
  (Setup.ofConfig? c hasher supply).map fun setup => start setup c.queueCapacity database

/-- Takes from the supply. -/
def draw (w : World) : Draw × World := (w.setup.supply w.drawn, { w with drawn := w.drawn + 1 })

/-! ## What happens at a moment -/

/-- Lets the writer of a client's connection work on its own link, and puts back
what it leaves there. -/
def tend (w : World) (i : Nat) : World :=
  match w.clients[i]? with
  | none => w
  | some c =>
    match w.server.registry.link? c.line.worker.link with
    | none => w
    | some link =>
      let (link, line) := c.line.tend w.setup.timing w.now link
      { w with
        server :=
          { w.server with registry := w.server.registry.modifyLink c.line.worker.link fun _ => link }
        clients := w.clients.set i { c with line } }

def tendAll (w : World) : World := (List.range w.clients.length).foldl tend w

def react (w : World) (i : Nat) (event : Event) : World :=
  match w.clients[i]? with
  | none => w
  | some c =>
    let (d, w) := w.draw
    let (worker, server) := c.line.worker.react d event w.server
    { w with
      server
      clients := w.clients.set i { c with line := { (c.line.heard event) with worker } } }

/-- Lets the worker of a client's connection read. -/
def readOne (w : World) (i : Nat) : Option Event × World :=
  match w.clients[i]? with
  | none => (none, w)
  | some c =>
    let cancelled := (w.server.registry.link? c.line.worker.link).any Link.cancelled
    let (event, line) := c.line.read w.setup.messageLimit cancelled
    (event, { w with clients := w.clients.set i { c with line } })

/-- The first event that a worker sees, if any of these sees one. -/
def nextEvent (w : World) : List Nat → Option (Nat × Event) × World
  | [] => (none, w)
  | i :: rest =>
    match w.readOne i with
    | (some event, w) => (some (i, event), w)
    | (none, w) => w.nextEvent rest

/-- Lets writers work and workers take events, at most so many. -/
def settleWithin : Nat → World → World
  | 0, w => w.tendAll
  | n + 1, w =>
    match w.tendAll.nextEvent (List.range w.clients.length) with
    | (none, w) => w.tendAll
    | (some (i, event), w) => settleWithin n (w.react i event)

/-- All that happens at a moment. Every event is a frame or makes a worker
leave, and so there are not more of them than frames and clients. -/
def settle (w : World) : World :=
  w.settleWithin (w.clients.foldl (fun n c => n + c.line.inbox.length + 2) 1)

/-! ## Time -/

/-- The next moment, at which something is due for a writer or which is the
last. Between two such moments nothing happens by itself. -/
def nextDue (w : World) (last : Nat) : Nat :=
  let due := w.clients.filterMap fun c => c.line.writer.due?
  (due.filter (w.now < ·)).foldl min last

/-- Moves the clock, at most by so many stops. -/
def advanceWithin (last : Nat) : Nat → World → World
  | 0, w => { w with now := last }.settle
  | n + 1, w =>
    let due := w.nextDue last
    if last ≤ due then { w with now := last }.settle
    else advanceWithin last n { w with now := due }.settle

def advance (w : World) (ms : Nat) : World := w.settle.advanceWithin (w.now + ms) ms

/-- All clients read. -/
def collect (w : World) : World := { w with clients := w.clients.map Client.collect }

/-- A moment in which clients and server may answer each other. The second turn
is for what the server makes of the clients' answers. -/
def pause (w : World) : World :=
  if w.clients.isEmpty then w else ((w.advance 1).collect.advance 1).collect

/-! ## Requests -/

def perform (w : World) (op : Operation) : Except Error op.Answer × World :=
  let (d, w) := w.draw
  let (answer, database) := w.server.database.perform op d
  (answer, { w with server := { w.server with database } })

def request (w : World) (r : Request) : Except TimeOverflow Answer × World :=
  let (d, w) := w.draw
  let (answer, database) := (serve w.setup.policy d.now d.id.text r).run d w.server.database
  (answer, { w with server := { w.server with database } })

def verify (w : World) (secret token : String) : Except AccessFault Identity × World :=
  let (d, w) := w.draw
  ((Account.verify secret d.now token).run d w.server.database |>.1, w)

/-- A request as it comes out of a connection. Spaces and tabs at the ends of a
header's value fill the line; whatever the header is, they are lost on the way
and no reader of it sees them. -/
def overWire (r : Request) : Request :=
  let trimmed (cs : List Char) : List Char :=
    ((cs.dropWhile Bearer.isPad).reverse.dropWhile Bearer.isPad).reverse
  { r with headers := r.headers.map fun h => (h.1, String.ofList (trimmed h.2.toList)) }

/-- Opens a socket for a request that is sent over a connection; gives the
status with which it is refused, or the session. A session that cannot be
registered is opened as well, and its socket is closed at once. -/
def openSocket (w : World) (r : Request) : Except Nat Session × World :=
  let (d, w) := w.draw
  match (authenticateSocket w.setup.policy.secret d.now (overWire r)).run d w.server.database with
  | (.error status, _) => (.error status, w)
  | (.ok owner, _) =>
    let session := .begin d.id owner
    let (line, server) :=
      match Worker.open session w.server with
      | .ok (worker, server) => (Line.fresh w.setup.timing w.now worker, server)
      | .error _ => (Line.lost w.setup.timing w.now session, w.server)
    (.ok session, ({ w with server, clients := w.clients ++ [.ofLine line] } : World).advance 1)

/-- A session that is not served by a worker. -/
def connect (w : World) (owner : Identity) : Session × World :=
  let (d, w) := w.draw
  (.begin d.id owner, w)

/-- Answers a text frame of a session. -/
def handleText (w : World) (s : Session) (text : String) : Nat × World :=
  let (d, w) := w.draw
  let (count, server) := w.server.handleText s d text
  (count, { w with server })

/-- The reply to a text frame of a session, which is not delivered. -/
def respond (w : World) (s : Session) (text : String) : Action.Reply × World :=
  let (d, w) := w.draw
  let (reply, database) := (Action.respond s d.now text).run d w.server.database
  (reply, { w with server := { w.server with database } })

theorem now_react (w : World) (i : Nat) (event : Event) : (w.react i event).now = w.now := by
  unfold react
  split <;> rfl

theorem now_readOne (w : World) (i : Nat) : (w.readOne i).2.now = w.now := by
  unfold readOne
  split <;> rfl

theorem now_nextEvent (w : World) (is : List Nat) : (w.nextEvent is).2.now = w.now := by
  induction is generalizing w with
  | nil => rfl
  | cons i rest ih =>
    have h := now_readOne w i
    simp only [nextEvent]
    split
    · rename_i he; rw [he] at h; exact h
    · rename_i he; rw [he] at h; rw [ih]; exact h

theorem now_tend (w : World) (i : Nat) : (w.tend i).now = w.now := by
  unfold tend
  split
  · rfl
  · split <;> rfl

theorem now_tendAll (w : World) : w.tendAll.now = w.now := by
  unfold tendAll
  induction List.range w.clients.length generalizing w with
  | nil => rfl
  | cons i is ih => rw [List.foldl_cons, ih, now_tend]

theorem now_settleWithin (n : Nat) (w : World) : (settleWithin n w).now = w.now := by
  induction n generalizing w with
  | zero => exact now_tendAll w
  | succ n ih =>
    have h := now_nextEvent w.tendAll (List.range w.clients.length)
    rw [now_tendAll] at h
    simp only [settleWithin]
    split
    · rename_i he; rw [he] at h; rw [now_tendAll]; exact h
    · rename_i he; rw [he] at h; rw [ih, now_react]; exact h

theorem now_settle (w : World) : w.settle.now = w.now := now_settleWithin _ w

end World
end ChatServer.Loopback

