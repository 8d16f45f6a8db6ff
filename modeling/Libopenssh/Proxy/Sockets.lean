import Libopenssh.Proxy.Ops

/-! `do_listen` and `do_connect` of `ssh-proxy.c` on the process's descriptor table: both try
the addresses `getaddrinfo` gives in turn, and both close every socket they give up on. -/
namespace Libopenssh.SshProxy

/-- What one entry of the `getaddrinfo` list leads to in `do_listen`. -/
inductive ListenTry where
  /-- Neither `AF_INET` nor `AF_INET6`: `continue` with `sock` as it was. -/
  | otherFamily
  /-- `socket()` fails and `sock` holds its -1. -/
  | socketFails
  /-- A socket, then whether `setsockopt(SO_REUSEADDR)`, `bind` and `listen(sock, 5)`
  succeed. -/
  | socket (setsockopt_ok bind_ok listen_ok : Bool)

/-- The loop over the `getaddrinfo` list, with `sock` carried across turns. -/
def do_listen_loop : List ListenTry → Int → Proxy → Int × Proxy
  | [], sock, st => (sock, st)
  | .otherFamily :: ai, sock, st => do_listen_loop ai sock st
  | .socketFails :: ai, _, st => do_listen_loop ai (-1) st
  | .socket setsockopt_ok bind_ok listen_ok :: ai, _, st =>
    let (sock, st) := st.openFd
    if !setsockopt_ok then do_listen_loop ai (-1) (st.close sock) else
    if !bind_ok then do_listen_loop ai (-1) (st.close sock) else
    if !listen_ok then do_listen_loop ai (-1) (st.close sock) else
    (sock, st)

/-- `do_listen`; `none` is a failed `getaddrinfo`. -/
def do_listen (addrs : Option (List ListenTry)) (st : Proxy) : Int × Proxy :=
  match addrs with
  | none => (-1, st)
  | some ai => do_listen_loop ai (-1) st

def ListenTry.listens : ListenTry → Bool
  | .socket true true true => true
  | _ => false

theorem do_listen_loop_socket (s b l : Bool) (ai : List ListenTry) (sock : Int) (st : Proxy) :
    do_listen_loop (.socket s b l :: ai) sock st =
      if s && b && l then st.openFd else do_listen_loop ai (-1) st := by
  have hc : st.openFd.2.close (lowestFree st.fds) = st := Proxy.openFd_close st
  cases s <;> cases b <;> cases l
  case true.true.true => rfl
  all_goals simp [do_listen_loop, hc]

theorem do_listen_loop_cons (a : ListenTry) (ai : List ListenTry) (st : Proxy) :
    do_listen_loop (a :: ai) (-1) st = if a.listens then st.openFd else do_listen_loop ai (-1) st := by
  cases a with
  | otherFamily | socketFails => rfl
  | socket s b l => rw [do_listen_loop_socket]; cases s <;> cases b <;> cases l <;> rfl

/-- `do_listen` leaks no descriptor: when some address takes every call it returns the
lowest free descriptor, every socket it gave up on before having been closed again, and
that socket is the only new one; otherwise it returns -1 with the table as it was. -/
theorem do_listen_eq (addrs : Option (List ListenTry)) (st : Proxy) :
    do_listen addrs st =
      if (addrs.getD []).any ListenTry.listens then st.openFd else (-1, st) := by
  cases addrs with
  | none => rfl
  | some ai => exact addr_loop_eq _ st (do_listen_loop · (-1) st) rfl (do_listen_loop_cons · · st) ai

/-- `do_connect` leaks no descriptor either: it returns the lowest free descriptor, the only
new one, when some address takes `socket`, `fcntl` and `connect`, and -1 with the table as
it was otherwise. -/
theorem do_connect_spec (addrs : Option (List AddrTry)) (st : Proxy) :
    do_connect addrs st =
      if (addrs.getD []).any AddrTry.connects then st.openFd else (-1, st) := by
  cases addrs with
  | none => rfl
  | some ai => exact do_connect_loop_any ai st

end Libopenssh.SshProxy
