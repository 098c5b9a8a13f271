import FleetDashboard.Proofs.Cache.Lookup
import FleetDashboard.Proofs.Request.Paired
import FleetDashboard.Proofs.Service.History

/-!
# Sessions that look alike

Two sessions look alike when the same cached texts can be seen in both, now and
later.  A request does the same in sessions that look alike, and leaves sessions
behind that do so again.
-/

namespace FleetDashboard

namespace Session

/-- A text is visible once it is written, unless it expires at once. -/
theorem lookup_write_self
    (session : Session)
    (key value : String) :
    (session.write key value).lookup key =
      if session.cache.lifetime = 0 then none else some value := by
  have looked : (session.write key value).lookup key = _ :=
    Cache.lookup_writeFor_self session.cache session.clock session.clock key value
      session.cache.lifetime
  have positive : 0 < Cache.longestLifetime := by decide
  rw [looked]
  by_cases dead : session.cache.lifetime = 0
  · rw [if_pos dead, if_neg]
    omega
  · rw [if_neg dead, if_pos]
    omega

/-! ## One text -/

/-- Two sessions show the same text for a key, now and at every later moment. -/
structure SharesText
    (key : String)
    (left right : Session) : Prop where
  clock : left.clock = right.clock
  lifetime : left.cache.lifetime = right.cache.lifetime
  text : ∀ moment, right.clock ≤ moment →
    left.cache.lookup moment key = right.cache.lookup moment key

namespace SharesText

variable {key : String} {left right : Session}

theorem refl
    (key : String)
    (session : Session) :
    session.SharesText key session :=
  ⟨rfl, rfl, fun _ _ => rfl⟩

theorem symm
    (shares : left.SharesText key right) :
    right.SharesText key left := by
  refine ⟨shares.clock.symm, shares.lifetime.symm, ?_⟩
  intro moment notBefore
  rw [shares.clock] at notBefore
  exact (shares.text moment notBefore).symm

theorem trans
    {middle : Session}
    (shares : left.SharesText key middle)
    (sharesToo : middle.SharesText key right) :
    left.SharesText key right := by
  refine ⟨shares.clock.trans sharesToo.clock, shares.lifetime.trans sharesToo.lifetime, ?_⟩
  intro moment notBefore
  have notBeforeToo : middle.clock ≤ moment := by
    rw [sharesToo.clock]
    exact notBefore
  rw [shares.text moment notBeforeToo, sharesToo.text moment notBefore]

theorem lookup
    (shares : left.SharesText key right) :
    left.lookup key = right.lookup key := by
  rw [Session.lookup, Session.lookup, shares.clock]
  exact shares.text right.clock (Nat.le_refl _)

/-- A text that is written in both sessions is shared, and the others still are. -/
theorem write
    (shares : left.SharesText key right)
    (other value : String) :
    (left.write other value).SharesText key (right.write other value) := by
  refine ⟨shares.clock, shares.lifetime, ?_⟩
  intro moment notBefore
  change (left.cache.writeFor left.clock other value left.cache.lifetime).lookup moment key =
    (right.cache.writeFor right.clock other value right.cache.lifetime).lookup moment key
  rw [shares.clock, shares.lifetime]
  by_cases same : key = other
  · rw [same, Cache.lookup_writeFor_self, Cache.lookup_writeFor_self]
  · rw [Cache.lookup_writeFor_of_ne _ _ _ same, Cache.lookup_writeFor_of_ne _ _ _ same]
    exact shares.text moment notBefore

end SharesText

/-! ## Sessions that look alike -/

/-- Two sessions show the same cached texts, now and at every later moment. -/
structure LooksLike
    (left right : Session) : Prop where
  clock : left.clock = right.clock
  lifetime : left.cache.lifetime = right.cache.lifetime
  texts : ∀ moment, right.clock ≤ moment → ∀ key,
    left.cache.lookup moment key = right.cache.lookup moment key

namespace LooksLike

theorem refl
    (session : Session) :
    session.LooksLike session :=
  ⟨rfl, rfl, fun _ _ _ => rfl⟩

theorem sharesText
    {left right : Session}
    (alike : left.LooksLike right)
    (key : String) :
    left.SharesText key right :=
  ⟨alike.clock, alike.lifetime, fun moment notBefore => alike.texts moment notBefore key⟩

theorem symm
    {left right : Session}
    (alike : left.LooksLike right) :
    right.LooksLike left where
  clock := alike.clock.symm
  lifetime := alike.lifetime.symm
  texts := fun moment notBefore key => (alike.sharesText key).symm.text moment notBefore

theorem trans
    {first second third : Session}
    (alike : first.LooksLike second)
    (alikeToo : second.LooksLike third) :
    first.LooksLike third where
  clock := alike.clock.trans alikeToo.clock
  lifetime := alike.lifetime.trans alikeToo.lifetime
  texts := fun moment notBefore key =>
    ((alike.sharesText key).trans (alikeToo.sharesText key)).text moment notBefore

theorem lookup
    {left right : Session}
    (alike : left.LooksLike right)
    (key : String) :
    left.lookup key = right.lookup key :=
  (alike.sharesText key).lookup

theorem write
    {left right : Session}
    (alike : left.LooksLike right)
    (key value : String) :
    (left.write key value).LooksLike (right.write key value) where
  clock := alike.clock
  lifetime := alike.lifetime
  texts := fun moment notBefore other =>
    ((alike.sharesText other).write key value).text moment notBefore

/-- Writing a text that expires at once is not seen when nothing else was. -/
theorem write_of_dead
    {session : Session}
    (dead : session.cache.lifetime = 0)
    {key : String}
    (absent : session.lookup key = none)
    (value : String) :
    (session.write key value).LooksLike session := by
  refine ⟨rfl, rfl, ?_⟩
  intro moment notBefore other
  change (session.cache.writeFor session.clock key value session.cache.lifetime).lookup moment
    other = session.cache.lookup moment other
  by_cases same : other = key
  · subst same
    have stillAbsent : session.cache.lookup moment other = none := by
      rw [Option.eq_none_iff_forall_ne_some]
      intro found visible
      have visibleNow := Cache.lookup_of_le session.cache notBefore visible
      exact absurd (absent.symm.trans visibleNow) (by simp)
    rw [Cache.lookup_writeFor_self, dead, stillAbsent, if_neg]
    simpa using notBefore
  · exact Cache.lookup_writeFor_of_ne _ _ _ same _ _

end LooksLike
end Session

namespace Request

/-- What is asked in both of two sessions is answered alike, if the relation between them
bears that calls are logged in both. -/
theorem composesSearches_paired
    (world : World)
    {sessions : Session → Session → Prop}
    (logged : ∀ call left right, sessions left right →
      sessions (left.log call) (right.log call))
    (backend : String) :
    ComposesSearches backend (fun _ => True) fun _ request =>
      Paired world world sessions Eq request request where
  pure := fun _ => .pure rfl
  bind := by
    intro α β request next paired nextPaired
    refine .bind paired ?_
    rintro value _ rfl
    exact nextPaired value
  question := fun call _ left right related => ⟨.refl _, logged call left right related⟩
  ofExcept := fun result => .ofExcept (.refl result)
  metricsNamespace := fun _ nextPaired => nextPaired world.metricsNamespace

/-- Requests of the dashboard do the same in sessions that look alike. -/
theorem composesDashboard_paired
    (world : World) :
    ComposesDashboard (fun _ => True) fun _ request =>
      Paired world world Session.LooksLike Eq request request := by
  have logged : ∀ call (left right : Session), left.LooksLike right →
      (left.log call).LooksLike (right.log call) :=
    fun _ _ _ alike => ⟨alike.clock, alike.lifetime, alike.texts⟩
  refine .of_searches (composesSearches_paired world logged) (fun _ _ => trivial) ?_ ?_ ?_
  · intro key
    exact .remembered fun _ _ alike => alike.lookup key
  · intro key value
    exact .remember fun _ _ alike => alike.write key value
  · intro cluster
    exact .ask (logged (.cluster cluster)) rfl

end Request

end FleetDashboard
