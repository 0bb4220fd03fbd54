import SignIn.Crypto.Sha256

/-!
# Key derivation

Stretches one secret into as many bytes as are needed, bound to the purpose named by `info`. The
secret is taken to be uniform already, so nothing is extracted from it first.
-/

namespace SignIn.Hkdf

/-- The blocks numbered from `i` on, `n` of them, each an authentication code that covers the one
before it. -/
def blocks (secret info : Bytes) : Nat → Nat → Bytes → Bytes
  | 0, _, _ => []
  | n + 1, i, previous =>
    let block := Sha256.authenticate secret (previous ++ info ++ [UInt8.ofNat i])
    block ++ blocks secret info n (i + 1) block

/-- The first `n` bytes that a secret yields for the purpose `info`. -/
def expand (secret info : Bytes) (n : Nat) : Bytes :=
  (blocks secret info ((n + 31) / 32) 1 []).take n

end SignIn.Hkdf
