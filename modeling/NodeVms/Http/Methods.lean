/-
# The methods behind the requests

The method behind each request as one script, for what is the same for all of
them: whether it goes through, and why not.  What it answers is left out.
-/

import NodeVms.System

namespace NodeVms

open Store Script

/-- The handler without its answer. -/
def unanswered {α : Type} (h : Query (Transaction α)) : Query (Transaction Unit) :=
  h.tagged fun _ => ()

/-- Without its answer a handler leaves the same state. -/
@[simp] theorem next_unanswered {α : Type} (h : Query (Transaction α)) :
    (unanswered h).next = h.next := next_tagged

def Users.Request.method (env : Env) (tenantId : String) :
    Users.Request → Query (Transaction Unit)
  | .create dto => unanswered (Users.create env tenantId dto)
  | .update id dto currentUser => unanswered (Users.update env tenantId id dto currentUser)
  | .resetSubordinatePassword targetId newPassword requesterRole =>
    unanswered (Users.resetSubordinatePassword env tenantId targetId newPassword requesterRole)
  | .remove id currentUser => unanswered (Users.remove env tenantId id currentUser)

def Branches.Request.method (env : Env) (tenantId : String) :
    Branches.Request → Query (Transaction Unit)
  | .create dto => unanswered (Branches.create env tenantId dto)
  | .update id dto => unanswered (Branches.update tenantId id dto)
  | .remove id => unanswered (Branches.remove env tenantId id)

def Vehicles.Request.method (env : Env) (tenantId : String) :
    Vehicles.Request → Query (Transaction Unit)
  | .create dto => unanswered (Vehicles.create env tenantId dto)
  | .update id dto => unanswered (Vehicles.update tenantId id dto)
  | .remove id => unanswered (Vehicles.remove env tenantId id)

def Drivers.Request.method (env : Env) (tenantId : String) :
    Drivers.Request → Query (Transaction Unit)
  | .create dto => unanswered (Drivers.create env tenantId dto)
  | .update id dto => unanswered (Drivers.update tenantId id dto)
  | .remove id => unanswered (Drivers.remove env tenantId id)

def Contracts.Request.method (env : Env) (tenantId : String) :
    Contracts.Request → Query (Transaction Unit)
  | .create dto => unanswered (Contracts.create env tenantId dto)
  | .update id dto => unanswered (Contracts.update tenantId id dto)
  | .remove id => unanswered (Contracts.remove env tenantId id)

def Workshop.Request.method (env : Env) (tenantId : String) :
    Workshop.Request → Query (Transaction Unit)
  | .createJob dto => unanswered (Workshop.createJob env tenantId dto)
  | .addItem jobId dto => unanswered (Workshop.addItem env tenantId jobId dto)
  | .updateStatus jobId status => unanswered (Workshop.updateStatus tenantId jobId status)

def Income.Request.method (env : Env) (tenantId : String) :
    Income.Request → Query (Transaction Unit)
  | .create dto => unanswered (Income.create env tenantId dto)
  | .update id dto => unanswered (Income.update tenantId id dto)
  | .remove id => unanswered (Income.remove env tenantId id)

def Alerts.Request.method (env : Env) (tenantId : String) :
    Alerts.Request → Query (Transaction Unit)
  | .scan daysAhead => unanswered (Alerts.scan env tenantId daysAhead)
  | .markRead alertId => unanswered (Alerts.markRead tenantId alertId)
  | .dismiss alertId => unanswered (Alerts.dismiss tenantId alertId)

def TenantRequest.method (env : Env) (tenantId : String) :
    TenantRequest → Query (Transaction Unit)
  | .users r => r.method env tenantId
  | .branches r => r.method env tenantId
  | .vehicles r => r.method env tenantId
  | .drivers r => r.method env tenantId
  | .assignments r => unanswered (r.handler env tenantId)
  | .bookings r => unanswered (r.handler env tenantId)
  | .contracts r => r.method env tenantId
  | .trips r => unanswered (r.handler env tenantId)
  | .fuel dto => unanswered (Fuel.addLog env tenantId dto)
  | .maintenance dto => unanswered (Maintenance.create env tenantId dto)
  | .documents dto => unanswered (Documents.create env tenantId dto)
  | .workshop r => r.method env tenantId
  | .expenses dto => unanswered (Expenses.create env tenantId dto)
  | .income r => r.method env tenantId
  | .alerts r => r.method env tenantId
  | .tracking limited dto => unanswered (Tracking.saveLocation env tenantId limited dto)

def PlatformRequest.method (env : Env) : PlatformRequest → Query (Transaction Unit)
  | .registerTenant dto => unanswered (Auth.registerTenant env dto)
  | .seedSuperAdmin dto => unanswered (Auth.seedSuperAdmin env dto)
  | .approve userId => unanswered (AdminApplications.approve userId)
  | .reject userId => unanswered (AdminApplications.reject userId)
  | .suspend userId => unanswered (AdminApplications.suspend userId)
  | .reactivate userId => unanswered (AdminApplications.reactivate userId)
  | .resetAdminPassword userId newPassword =>
    unanswered (AdminApplications.resetAdminPassword env userId newPassword)
  | .updateTenant id dto => unanswered (Tenants.update id dto)
  | .removeTenant id => unanswered (Tenants.remove env id)
  | .enableFeature tenantId moduleName =>
    unanswered (FeatureAccesses.enable env tenantId moduleName)
  | .disableFeature tenantId moduleName =>
    unanswered (FeatureAccesses.disable env tenantId moduleName)
  | .createSubscription dto => unanswered (Subscriptions.create env dto)
  | .updateSubscription id dto => unanswered (Subscriptions.update id dto)
  | .changePassword userId dto => unanswered (Profile.changePassword env userId dto)
  | .changeName userId name => unanswered (Profile.changeName userId name)
  | .runOfflineDetection => unanswered (Jobs.runOfflineDetection env)

def Request.method : Request → Query (Transaction Unit)
  | .tenant env tenantId r => r.method env tenantId
  | .platform env r => r.method env

/-- The method of a request is its handler. -/
theorem TenantRequest.next_method (env : Env) (tenantId : String) (r : TenantRequest) :
    (r.method env tenantId).next = r.next env tenantId := by
  cases r with
  | users r => cases r <;> exact next_tagged
  | branches r => cases r <;> exact next_tagged
  | vehicles r => cases r <;> exact next_tagged
  | drivers r => cases r <;> exact next_tagged
  | contracts r => cases r <;> exact next_tagged
  | workshop r => cases r <;> exact next_tagged
  | income r => cases r <;> exact next_tagged
  | alerts r => cases r <;> exact next_tagged
  | _ => exact next_tagged

/-- So is that of the platform's. -/
theorem PlatformRequest.next_method (env : Env) (r : PlatformRequest) :
    (r.method env).next = r.next env := by
  cases r <;> exact next_tagged

/-- A step executes the handler of its request. -/
theorem Request.next_method (r : Request) : r.method.next = step r := by
  cases r with
  | tenant env tenantId r => exact r.next_method env tenantId
  | platform env r => exact r.next_method env

end NodeVms
