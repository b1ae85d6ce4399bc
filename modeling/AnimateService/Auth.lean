import AnimateService.Text

/-!
# The users database

`auth.c` after `auth_load`: the list of users, the last line of the file first, and the three
functions that the request handler calls on it.
-/
namespace AnimateService

/-- `AUTH_USERNAME_MAX`, and `MAX_USERNAME_LEN` of the shared header. -/
def maxUsernameLen : Nat := 32

/-- `auth_user_t`. -/
structure AuthUser where
  /-- The name, at most `AUTH_USERNAME_MAX` bytes. -/
  username : Bytes
  /-- The balance, an `int32_t`. -/
  balance : Int
  deriving DecidableEq, Repr

/-- `auth_db_t`: the users in the order of the list. -/
abbrev AuthDb := List AuthUser

/-- `auth_valid_username`: one to 32 bytes, each a letter or a digit. -/
def authValidUsername (username : Bytes) : Bool :=
  0 < username.length ∧ username.length ≤ maxUsernameLen ∧ username.all isAlnum

/-- `auth_lookup`: the balance of the first user of that name. -/
def authLookup (db : AuthDb) (username : Bytes) : Option Int :=
  (db.find? fun user => user.username = username).map AuthUser.balance

/-- `auth_user_exists`. -/
def authUserExists (db : AuthDb) (username : Bytes) : Bool := (authLookup db username).isSome

/-- A valid name is not empty. -/
theorem authValidUsername_ne_nil {username : Bytes} (valid : authValidUsername username = true) :
    username ≠ [] := by
  rintro rfl
  simp [authValidUsername] at valid

/-- A valid name fits the buffers that hold it. -/
theorem authValidUsername_length {username : Bytes} (valid : authValidUsername username = true) :
    username.length ≤ maxUsernameLen := by
  simp only [authValidUsername, Bool.decide_and, Bool.and_eq_true, decide_eq_true_eq] at valid
  exact valid.2.1

end AnimateService
