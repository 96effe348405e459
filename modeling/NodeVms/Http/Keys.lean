/-
# The keys in Redis

Three families of keys: revoked tokens, rate limits and cached locations.  They do not
meet, and the keys of two tenants do not either as long as there is no colon in the ids
of the tenants.
-/

import NodeVms.Http.World

namespace NodeVms

open Store

/-- Strings that begin with different characters. -/
theorem append_ne_append {a b x y : String} {c d : Char} (ha : a.toList.head? = some c)
    (hb : b.toList.head? = some d) (hcd : c ≠ d) : a ++ x ≠ b ++ y := by
  intro h
  have hhead : (a ++ x).toList.head? = (b ++ y).toList.head? := by rw [h]
  rw [String.toList_append, String.toList_append, List.head?_append, List.head?_append, ha, hb]
    at hhead
  exact hcd (Option.some.inj hhead)

/-- Tokens have different keys. -/
theorem Auth.blacklistKey_injective : Function.Injective Auth.blacklistKey :=
  fun _ _ h => (String.append_right_inj _).1 h

namespace Tracking

variable {T T' : String}

/-- The key of a limit is never that of a token. -/
theorem rateLimitKey_ne (tenantId vehicleId token : String) :
    rateLimitKey tenantId vehicleId ≠ Auth.blacklistKey token := by
  unfold rateLimitKey Auth.blacklistKey
  rw [String.append_assoc, String.append_assoc]
  exact append_ne_append (c := 't') (d := 'b') rfl rfl (by decide)

/-- Nor is the key of a cached position. -/
theorem cacheKey_ne (tenantId vehicleId token : String) :
    cacheKey tenantId vehicleId ≠ Auth.blacklistKey token := by
  unfold cacheKey Auth.blacklistKey
  rw [String.append_assoc, String.append_assoc]
  exact append_ne_append (c := 'g') (d := 'b') rfl rfl (by decide)

/-- The keys of limits and of positions differ. -/
theorem rateLimitKey_ne_cacheKey (v v' : String) : rateLimitKey T v ≠ cacheKey T' v' := by
  unfold rateLimitKey cacheKey
  rw [String.append_assoc, String.append_assoc, String.append_assoc, String.append_assoc]
  exact append_ne_append (c := 't') (d := 'g') rfl rfl (by decide)

/-- Without colons in it, the id of the tenant ends at the first one. -/
theorem takeWhile_colon {l l' : List Char} (hl : ':' ∉ l) :
    (l ++ ':' :: l').takeWhile (· ≠ ':') = l := by
  have hall : ∀ c ∈ l, decide (c ≠ ':') = true := fun c hc =>
    decide_eq_true fun h => hl (h ▸ hc)
  rw [List.takeWhile_append_of_pos hall, List.takeWhile_cons_of_neg (by decide), List.append_nil]

/-- The first colon ends a tenant's id that has none. -/
theorem eq_of_append_colon (hT : ':' ∉ T.toList) (hT' : ':' ∉ T'.toList) {v v' : String}
    (h : T ++ (":" ++ v) = T' ++ (":" ++ v')) : T = T' ∧ v = v' := by
  have hlist : T.toList ++ ':' :: v.toList = T'.toList ++ ':' :: v'.toList := by
    have hlist := congrArg String.toList h
    rwa [String.toList_append, String.toList_append, String.toList_append, String.toList_append]
      at hlist
  have hwhile := congrArg (List.takeWhile (· ≠ ':')) hlist
  rw [takeWhile_colon hT, takeWhile_colon hT'] at hwhile
  obtain rfl := String.toList_inj.1 hwhile
  rw [String.append_right_inj, String.append_right_inj] at h
  exact ⟨rfl, h⟩

/-- So a key of a limit tells its tenant. -/
theorem eq_of_rateLimitKey_eq (hT : ':' ∉ T.toList) (hT' : ':' ∉ T'.toList) {v v' : String}
    (h : rateLimitKey T v = rateLimitKey T' v') : T = T' := by
  unfold rateLimitKey at h
  rw [String.append_assoc, String.append_assoc, String.append_assoc, String.append_assoc,
    String.append_right_inj] at h
  exact (eq_of_append_colon hT hT' h).1

/-- A key of a position tells its tenant and its vehicle. -/
theorem eq_of_cacheKey_eq (hT : ':' ∉ T.toList) (hT' : ':' ∉ T'.toList) {v v' : String}
    (h : cacheKey T v = cacheKey T' v') : T = T' ∧ v = v' := by
  unfold cacheKey at h
  rw [String.append_assoc, String.append_assoc, String.append_assoc, String.append_assoc,
    String.append_right_inj] at h
  exact eq_of_append_colon hT hT' h

section Sets

variable {env : Env} {tenantId token : String} {limited : Bool} {dto : SaveLocationDto}
  {db : Database} {p : RedisSet}

/-- The two keys of a `saveLocation`. -/
theorem key_of_mem_sets (h : p ∈ sets env tenantId limited dto db) :
    p.key = rateLimitKey tenantId dto.vehicleId ∨ p.key = cacheKey tenantId dto.vehicleId := by
  unfold sets at h
  split at h
  · exact nomatch h
  · rcases List.mem_cons.1 h with rfl | h
    · exact .inl rfl
    · obtain ⟨data, -, rfl⟩ := Option.map_eq_some_iff.1 (Option.mem_toList.1 h)
      exact .inr rfl

/-- `saveLocation` writes no key of the blacklist. -/
theorem key_ne_of_mem_sets (h : p ∈ sets env tenantId limited dto db) :
    p.key ≠ Auth.blacklistKey token := by
  rcases key_of_mem_sets h with hkey | hkey
  · rw [hkey]
    exact rateLimitKey_ne _ _ _
  · rw [hkey]
    exact cacheKey_ne _ _ _

end Sets

end Tracking

end NodeVms
