import Mathlib.Tactic.SplitIfs
import NpcRuntime.Turn

/-!
# Routing policy

`runtime-core/src/policy.rs`: which providers a request lets a turn use, and from which to which it
may fall back.
-/

namespace NpcRuntime

inductive PrivacyDecision where
  | allowed
  | blockedOffline
  | blockedFullyLocal
  | cloudProviderNotAuthorized
  | retentionNotAuthorized
deriving DecidableEq

structure PrivacyPolicy where
  executionMode : ExecutionMode
  networkPolicy : NetworkPolicy
  authorizedCloudProviders : List String
  allowRetainingProviders : Bool
deriving DecidableEq

namespace PrivacyPolicy

def fromRequest (request : TurnRequest) : PrivacyPolicy where
  executionMode := request.executionMode
  networkPolicy := request.networkPolicy
  authorizedCloudProviders := request.authorizedCloudProviders
  allowRetainingProviders := request.allowRetainingProviders

def evaluate (p : PrivacyPolicy) (descriptor : ProviderDescriptor) : PrivacyDecision :=
  if descriptor.location.isNetworked && p.networkPolicy == .offline then .blockedOffline
  else if descriptor.location.isNetworked && p.executionMode == .fullyLocal then .blockedFullyLocal
  else if descriptor.location.isNetworked &&
      !p.authorizedCloudProviders.contains descriptor.id then .cloudProviderNotAuthorized
  else if descriptor.mayRetainData && !p.allowRetainingProviders then .retentionNotAuthorized
  else .allowed

theorem evaluate_eq_allowed {p : PrivacyPolicy} {descriptor : ProviderDescriptor} :
    p.evaluate descriptor = .allowed ↔
      (descriptor.location.isNetworked = true → p.networkPolicy ≠ .offline ∧
        p.executionMode ≠ .fullyLocal ∧ descriptor.id ∈ p.authorizedCloudProviders) ∧
      (descriptor.mayRetainData = true → p.allowRetainingProviders = true) := by
  unfold evaluate
  by_cases hnetworked : descriptor.location.isNetworked = true
  · simp only [hnetworked, Bool.true_and, beq_iff_eq, Bool.not_eq_true', forall_const]
    split_ifs with hoffline hlocal hauthorized hretain
    · simp [hoffline]
    · simp [hlocal]
    · simp_all
    · simp_all
    · simp_all
  · rw [Bool.not_eq_true] at hnetworked
    simp only [hnetworked, Bool.false_and, Bool.false_eq_true, if_false, false_implies, true_and]
    split_ifs with hretain
    · simp_all
    · simp_all

end PrivacyPolicy

structure FallbackPolicy where
  allowProviderFallback : Bool
  allowLocalToCloudFallback : Bool
deriving DecidableEq

namespace FallbackPolicy

def fromRequest (request : TurnRequest) : FallbackPolicy where
  allowProviderFallback := request.allowProviderFallback
  allowLocalToCloudFallback := request.allowLocalToCloudFallback

def allowsTransition (p : FallbackPolicy) (source target : ProviderDescriptor) : Bool :=
  if source.id = target.id then true
  else if !p.allowProviderFallback then false
  else if source.location.isLocal && target.location.isNetworked &&
      !p.allowLocalToCloudFallback then false
  else true

/-- Between providers that differ. -/
theorem allowsTransition_of_ne {p : FallbackPolicy} {source target : ProviderDescriptor}
    (h : source.id ≠ target.id) :
    p.allowsTransition source target = true ↔ p.allowProviderFallback = true ∧
      (source.location.isLocal = true → target.location.isNetworked = true →
        p.allowLocalToCloudFallback = true) := by
  rw [allowsTransition, if_neg h]
  cases p.allowProviderFallback <;> cases source.location.isLocal <;>
    cases target.location.isNetworked <;> cases p.allowLocalToCloudFallback <;> simp

end FallbackPolicy

structure RoutingPlan where
  privacy : PrivacyPolicy
  fallback : FallbackPolicy
deriving DecidableEq

namespace RoutingPlan

def fromRequest (request : TurnRequest) : RoutingPlan where
  privacy := .fromRequest request
  fallback := .fromRequest request

end RoutingPlan

end NpcRuntime
