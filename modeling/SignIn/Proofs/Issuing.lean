import SignIn.Proofs.Ledger

/-!
# How a session is issued

What a browser is told to keep or to drop, down to the bytes of the header. A cookie that a manager
sets opens under its key to the session and to the second it was set in; it may only be sent back
over a secure connection if the manager says so, and it lasts as long as the session does.
-/

namespace SignIn

namespace Session.Manager

/-- The end of a header that sets the session's cookie. -/
def attributeText (secure : Bool) (age : String) : String :=
  "; HttpOnly" ++ (if secure then "; Secure" else "") ++ "; Path=/; Max-Age=" ++ age

/-- A cookie is how a manager issues a session at some moment. -/
structure Issues (m : Manager) (now : Moment) (s : Session) (c : CookieChange) : Prop where
  /-- What it opens to is the session, dated by the wall clock. -/
  carries : ∃ p : Payload, Cookie.open? m.key ⟨cookieName, c.value⟩ = some p.print ∧
  p.session = s ∧
    p.issuedAt = now.second ∧ (now.IsDated → p.issuedAt.toInt = now.wallSecond)
  header : c.header = Utf8.encode "_id=" ++ Percent.encode Percent.keptInCookie c.value
    ++ Utf8.encode (attributeText m.secure "900")

/-- A cookie is how a manager drops the session. -/
structure Drops (m : Manager) (c : CookieChange) : Prop where
  header : c.header = Utf8.encode "_id=" ++ Utf8.encode (attributeText m.secure "0")

/-- The header of a cookie for the session, whatever its value is. -/
theorem header_cookieName (value : Bytes) (secure : Bool) (maxAge : Nat) :
    (CookieChange.mk cookieName value secure maxAge).header
      = Utf8.encode "_id=" ++ Percent.encode Percent.keptInCookie value
        ++ Utf8.encode (attributeText secure (Decimal.ofNat maxAge)) := by
  have hname : Percent.encode Percent.keptInCookie cookieName ++ [0x3D] = Utf8.encode "_id=" := by
    decide
  rw [← hname, CookieChange.header, CookieChange.pair, List.append_assoc _ [0x3D] _]
  rfl

theorem issues_set (m : Manager) (now : Moment) (nonce : Nonce) (s : Session) :
    m.Issues now s (m.set now nonce s).1 where
  carries := ⟨⟨s, now.second⟩, (Write.mk now nonce s).open?_value m.key, rfl, rfl,
    fun hdated => hdated.toInt_second⟩
  header := header_cookieName _ m.secure maxAge

theorem drops_clear (m : Manager) : m.Drops m.clear where
  header := header_cookieName [] m.secure 0

/-- Setting a session that is logged in revokes nothing. -/
theorem set_snd_of_loggedIn (m : Manager) (now : Moment) (nonce : Nonce) {s : Session}
    (h : s.isLoggedIn = true) : (m.set now nonce s).2 = m := by
  rw [set]
  exact if_pos h

/-- What a manager issues and drops depends on its key and its setting only. -/
theorem Issues.congr {m m' : Manager} {now : Moment} {s : Session} {c : CookieChange}
    (h : m'.Issues now s c) (hkey : m'.key = m.key) (hsecure : m'.secure = m.secure) :
    m.Issues now s c where
  carries := by rw [← hkey]; exact h.carries
  header := by rw [← hsecure]; exact h.header

theorem Drops.congr {m m' : Manager} {c : CookieChange} (h : m'.Drops c)
    (hsecure : m'.secure = m.secure) : m.Drops c where
  header := by rw [← hsecure]; exact h.header

end Session.Manager

end SignIn
