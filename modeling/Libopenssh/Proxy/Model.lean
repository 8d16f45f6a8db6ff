import Mathlib.Data.List.Dedup
import Mathlib.Logic.Relation
import Libopenssh.Sshbuf

/-! The session machine of `ssh-proxy.c`: libevent's queue, the descriptor table, the
session heap and the four callbacks, with each transport engine abstracted as in §4.5. -/
namespace Libopenssh.SshProxy

/-! ### Transport engines -/

/-- A packet as `ssh_packet_get` hands it over. Its message number is never 0, which
`ssh_packet_get` returns for "no packet". -/
structure Packet where
  type : UInt8
  payload : Bytes
  type_ne : type ≠ 0
  deriving DecidableEq

/-- The framing `ssh_packet_put` applies; a framed packet is never empty. -/
structure Transport where
  frame : Packet → Bytes
  frame_ne : ∀ p, frame p ≠ []

/-- A transport engine (`struct ssh`) as the proxy sees it: the decoded packets
`ssh_packet_get` has not returned yet, oldest first, and the output window. -/
structure Engine where
  inbox : List Packet
  out : Bytes
  deriving DecidableEq

/-- Modelled from the spec: a new engine has decoded nothing and queued nothing. -/
def ssh_init : Engine := ⟨[], []⟩

/-- Modelled from the spec: from the bytes read the engine decodes `decoded` and queues
`own` bytes of its own protocol traffic. -/
def ssh_input_append (e : Engine) (decoded : List Packet) (own : Bytes) : Engine :=
  ⟨e.inbox ++ decoded, e.out ++ own⟩

/-- Modelled from the spec: the oldest decoded packet, removed (`none` is the type 0). -/
def ssh_packet_get (e : Engine) : Option Packet × Engine :=
  match e.inbox with
  | [] => (none, e)
  | p :: ps => (some p, { e with inbox := ps })

/-- Modelled from the spec: the framed packet is appended to the output. -/
def ssh_packet_put (T : Transport) (e : Engine) (p : Packet) : Engine :=
  { e with out := e.out ++ T.frame p }

/-- Modelled from the spec. The engine's buffers stay far below `2^32` bytes, so the
`u_int` length it reports is the window's length. -/
def ssh_output_ptr (e : Engine) : Bytes := e.out

/-- Modelled from the spec: the first `n` bytes of the window are dropped. -/
def ssh_output_consume (e : Engine) (n : Nat) : Engine :=
  { e with out := e.out.drop n }

/-- The callbacks `event_set` installs on a session's events. -/
inductive Cb where
  | connect
  | input
  | output
  deriving DecidableEq

/-- A `struct event` inside a session: the descriptor and callback `event_set` gave it
(its argument is always the session). `xcalloc` leaves it zeroed. -/
structure Event where
  fd : Int := 0
  cb : Option Cb := none
  deriving DecidableEq

inductive Dir where
  | input
  | output
  deriving DecidableEq

/-- The callback `connect_cb` installs on an event of each direction. -/
def Dir.cb : Dir → Cb
  | .input => .input
  | .output => .output

/-- `struct side`. -/
structure Side where
  fd : Int := -1
  input : Event := {}
  output : Event := {}
  ssh : Option Engine := none
  deriving DecidableEq

def Side.event (x : Side) : Dir → Event
  | .input => x.input
  | .output => x.output

inductive SideName where
  | client
  | server
  deriving DecidableEq

def SideName.other : SideName → SideName
  | .client => .server
  | .server => .client

/-- `struct session` as `accept_cb` initialises it. -/
structure Session where
  client : Side := {}
  server : Side := {}
  connected : Int := 0
  deriving DecidableEq

def Session.side (s : Session) : SideName → Side
  | .client => s.client
  | .server => s.server

def Session.setSsh (s : Session) : SideName → Option Engine → Session
  | .client, e => { s with client.ssh := e }
  | .server, e => { s with server.ssh := e }

/-- The two descriptors a session holds. -/
def Session.fds (s : Session) : List Int := [s.client.fd, s.server.fd]

/-- What libevent's queue can point at: the listener's event in `main`, or one of the
four events inside the session at address `p`. -/
inductive Ref where
  | listener
  | ev (p : Nat) (side : SideName) (dir : Dir)
  deriving DecidableEq

/-- The calls the proxy makes on engines and sockets, in order. -/
inductive Act where
  | got (p : Nat) (side : SideName) (pkt : Packet)
  | put (p : Nat) (side : SideName) (pkt : Packet)
  | append (p : Nat) (side : SideName) (decoded : List Packet) (own : Bytes)
  | write (p : Nat) (side : SideName) (count : Nat) (accepted : Bytes)
  | consume (p : Nat) (side : SideName) (n : Nat)
  | close (p : Nat)
  deriving DecidableEq

/-- The proxy between two callbacks: the session heap (freed addresses are `none`,
and `next` is never handed out twice), the `sessions` list, libevent's queue, the
process's open descriptors, the `close` calls that hit no open descriptor, and the
calls made so far. -/
structure Proxy where
  mem : Nat → Option Session
  next : Nat
  sessions : List Nat
  pending : Ref → Bool
  fds : List Int
  badCloses : Nat
  trace : List Act

/-- POSIX: a new descriptor is the lowest-numbered one not open. -/
def lowestFree (fds : List Int) : Int :=
  (((List.range (fds.length + 1)).map Int.ofNat).find? fun n => n ∉ fds).getD 0

namespace Proxy

@[simps]
def openFd (st : Proxy) : Int × Proxy :=
  (lowestFree st.fds, { st with fds := st.fds ++ [lowestFree st.fds] })

/-- `close(fd)`: on a descriptor that is not open it fails with `EBADF`. -/
def close (st : Proxy) (fd : Int) : Proxy :=
  if fd ∈ st.fds then { st with fds := st.fds.erase fd } else { st with badCloses := st.badCloses + 1 }

@[simps]
def event_add (st : Proxy) (r : Ref) : Proxy :=
  { st with pending := Function.update st.pending r true }

@[simps]
def event_del (st : Proxy) (r : Ref) : Proxy :=
  { st with pending := Function.update st.pending r false }

@[simps]
def store (st : Proxy) (p : Nat) (v : Option Session) : Proxy :=
  { st with mem := Function.update st.mem p v }

@[simps]
def log (st : Proxy) (acts : List Act) : Proxy :=
  { st with trace := st.trace ++ acts }

end Proxy

/-! ### Callbacks -/

/-- What one entry of the `getaddrinfo` list leads to in `do_connect`. -/
inductive AddrTry where
  | otherFamily
  | socketFails
  | socket (fcntl_ok connect_ok : Bool)

def do_connect_loop : List AddrTry → Proxy → Int × Proxy
  | [], st => (-1, st)
  | .otherFamily :: ai, st => do_connect_loop ai st
  | .socketFails :: ai, st => do_connect_loop ai st
  | .socket fcntl_ok connect_ok :: ai, st =>
    let (sock, st) := st.openFd
    if fcntl_ok && connect_ok then (sock, st) else do_connect_loop ai (st.close sock)

/-- `do_connect`; `none` is a failed `getaddrinfo`. -/
def do_connect (addrs : Option (List AddrTry)) (st : Proxy) : Int × Proxy :=
  match addrs with
  | none => (-1, st)
  | some ai => do_connect_loop ai st

inductive ReadRes where
  | data (decoded : List Packet) (own : Bytes)
  | again
  | eof
  | error

/-- A socket that takes up to `room` bytes, or `EINTR`/`EAGAIN`, or another error. -/
inductive WriteRes where
  | room (k : Nat)
  | again
  | error

/-- The answers of the kernel and the library to the calls of one callback. `olen`
is what the stack held in `olen` before `ssh_output_ptr`, and `beyond` the memory
after the output window. -/
structure Oracle where
  accept_ok : Bool
  fcntl_ok : Bool
  addrs : Option (List AddrTry)
  soerr : Int
  hostkey_ok : Bool
  known_hostkey_ok : Bool
  read : ReadRes
  olen : Nat
  write : WriteRes
  beyond : Nat → UInt8

inductive ByteOrder where
  | little
  | big

structure Config where
  T : Transport
  order : ByteOrder

/-- How a callback ends: back in the event loop, in `fatal()`, or in undefined behaviour
(a callback on freed memory or a NULL engine). -/
inductive Next where
  | run (st : Proxy)
  | exit (msg : String)
  | fault

/-- The `fail:` label of `accept_cb`. -/
def accept_fail (p : Nat) (s : Session) (st : Proxy) : Proxy :=
  (if s.client.fd ≠ -1 then st.close s.client.fd else st).store p none

def accept_cb (o : Oracle) (st : Proxy) : Next :=
  let p := st.next
  let s : Session := {}
  let st := ({ st with next := p + 1 }.store p (some s)).event_add .listener
  if !o.accept_ok then .exit "accept: %s" else
  let (cfd, st) := st.openFd
  let s := { s with client.fd := cfd }
  if !o.fcntl_ok then .run (accept_fail p s st) else
  let (sfd, st) := do_connect o.addrs st
  let s := { s with server.fd := sfd }
  if sfd < 0 then .run (accept_fail p s st) else
  let s := { s with server.output := ⟨sfd, some .connect⟩ }
  .run ((st.store p (some s)).event_add (.ev p .server .output))

def session_close (p : Nat) (s : Session) (st : Proxy) : Proxy :=
  let st := if s.client.fd ≠ -1 then st.close s.client.fd else st
  let st := if s.server.fd ≠ -1 then st.close s.server.fd else st
  let st := if s.connected = 1 then
      { (((st.event_del (.ev p .client .input)).event_del (.ev p .client .output)).event_del
          (.ev p .server .input)).event_del (.ev p .server .output) with
        sessions := st.sessions.erase p }
    else st
  (st.store p none).log [.close p]

def connect_cb (p : Nat) (s : Session) (o : Oracle) (st : Proxy) : Next :=
  let st := st.event_del (.ev p .server .output)
  if o.soerr ≠ 0 then
    .run (session_close p { s with server.fd := -1 } (st.close s.server.fd))
  else
  let s := { s with
    client := { s.client with
      input := ⟨s.client.fd, some .input⟩
      output := ⟨s.client.fd, some .output⟩
      ssh := some ssh_init }
    server := { s.server with
      input := ⟨s.server.fd, some .input⟩
      output := ⟨s.server.fd, some .output⟩
      ssh := some ssh_init } }
  if !o.hostkey_ok then .exit "could not load server hostkey" else
  if !o.known_hostkey_ok then .exit "could not load client hostkey" else
  let st := (st.event_add (.ev p .server .input)).event_add (.ev p .client .input)
  .run { st.store p (some { s with connected := 1 }) with sessions := st.sessions ++ [p] }

/-- The tail of `ssh_packet_fwd` for one side: its writable event is registered when
its window is non-empty. -/
def armOutput (p : Nat) (x : SideName) (e : Engine) (st : Proxy) : Proxy :=
  if (ssh_output_ptr e).length ≠ 0 then st.event_add (.ev p x .output) else st

def ssh_packet_fwd (T : Transport) (p : Nat) (src dst : SideName) (s : Session)
    (st : Proxy) : Session × Proxy :=
  match (s.side src).ssh, (s.side dst).ssh with
  | some ef, some et =>
    let (pkt, ef) := ssh_packet_get ef
    let (et, st) := match pkt with
      | some pkt => (ssh_packet_put T et pkt, st.log [.got p src pkt, .put p dst pkt])
      | none => (et, st)
    ((s.setSsh src (some ef)).setSsh dst (some et), armOutput p dst et (armOutput p src ef st))
  | _, _ => (s, st)

/-- The common tail of `input_cb` and `output_cb`: forward from `a` to `b`, then back,
and store the session. -/
def forwardBoth (T : Transport) (p : Nat) (a b : SideName) (s : Session) (st : Proxy) : Proxy :=
  let (s, st) := ssh_packet_fwd T p a b s st
  let (s, st) := ssh_packet_fwd T p b a s st
  st.store p (some s)

def input_cb (T : Transport) (fd : Int) (p : Nat) (s : Session) (o : Oracle) (st : Proxy) : Next :=
  let r := if fd = s.client.fd then SideName.client else .server
  match o.read with
  | .again => .run (forwardBoth T p r r.other s (st.event_add (.ev p r .input)))
  | .eof | .error => .run (session_close p s st)
  | .data decoded own =>
    match (s.side r).ssh with
    | none => .fault
    | some e =>
      let st := (st.event_add (.ev p r .input)).log [.append p r decoded own]
      .run (forwardBoth T p r r.other (s.setSsh r (some (ssh_input_append e decoded own))) st)

/-- `olen` after `ssh_output_ptr(w->ssh, (u_int *)&olen)` on an LP64 machine: the
`u_int` length fills the four bytes at `&olen` (the low half of the `ssize_t` on a
little-endian machine, the high half on a big-endian one), the other four keep the
`prior` contents, and the eight bytes are read as a signed 64-bit number. -/
def olenAfter (order : ByteOrder) (prior len : Nat) : Int :=
  let bits := match order with
    | .little => prior % 2 ^ 64 / 2 ^ 32 * 2 ^ 32 + len % 2 ^ 32
    | .big => len % 2 ^ 32 * 2 ^ 32 + prior % 2 ^ 32
  if bits < 2 ^ 63 then bits else bits - 2 ^ 64

/-- The bytes `write(fd, obuf, n)` sends: the window, then whatever memory follows it. -/
def sentBytes (obuf : Bytes) (beyond : Nat → UInt8) (n : Nat) : Bytes :=
  obuf.take n ++ (List.range (n - obuf.length)).map beyond

/-- The partial and the full write are handled alike: both consume what was written. -/
def output_cb (cfg : Config) (fd : Int) (p : Nat) (s : Session) (o : Oracle) (st : Proxy) : Next :=
  let w := if fd = s.client.fd then SideName.client else .server
  match (s.side w).ssh with
  | none => .fault
  | some e =>
    let obuf := ssh_output_ptr e
    let olen := olenAfter cfg.order o.olen obuf.length
    if 0 < olen then
      let count := olen.toNat
      match o.write with
      | .again =>
        .run (forwardBoth cfg.T p w.other w s ((st.log [.write p w count []]).event_add (.ev p w .output)))
      | .error => .run (session_close p s (st.log [.write p w count []]))
      | .room k =>
        let len := min k count
        if len = 0 then .run (session_close p s (st.log [.write p w count []])) else
        let st := st.log [.write p w count (sentBytes obuf o.beyond len), .consume p w len]
        .run (forwardBoth cfg.T p w.other w (s.setSsh w (some (ssh_output_consume e len))) st)
    else .run (forwardBoth cfg.T p w.other w s st)

/-! ### The event loop -/

/-- libevent runs the callback of a registered event; events are not persistent, so
the event leaves the queue first. -/
def dispatch (cfg : Config) (o : Oracle) (st : Proxy) : Ref → Next
  | .listener => accept_cb o (st.event_del .listener)
  | .ev p x d =>
    match st.mem p with
    | none => .fault
    | some s =>
      let ev := (s.side x).event d
      let st := st.event_del (.ev p x d)
      match ev.cb with
      | some .connect => connect_cb p s o st
      | some .input => input_cb cfg.T ev.fd p s o st
      | some .output => output_cb cfg ev.fd p s o st
      | none => .fault

/-- One turn of `event_dispatch`: some registered event fires and its callback returns. -/
def Step (cfg : Config) (st st' : Proxy) : Prop :=
  ∃ r o, st.pending r = true ∧ dispatch cfg o st r = .run st'

/-- The loop's start in `main`: the listener registered, the descriptors `fds` open. -/
def init (fds : List Int) : Proxy where
  mem := fun _ => none
  next := 0
  sessions := []
  pending := fun r => decide (r = .listener)
  fds := fds.dedup
  badCloses := 0
  trace := []

def Reachable (cfg : Config) (fds : List Int) (st : Proxy) : Prop :=
  Relation.ReflTransGen (Step cfg) (init fds) st

end Libopenssh.SshProxy
