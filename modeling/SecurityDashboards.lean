import SecurityDashboards.Proofs.PlainObjectProofs
import SecurityDashboards.Proofs.TenantPolicyProofs
import SecurityDashboards.Proofs.TenantNamespacesProofs
import SecurityDashboards.Proofs.CookieSplitterProofs
import SecurityDashboards.Proofs.AuthHandlerProofs
import SecurityDashboards.Proofs.ReplayProofs
import SecurityDashboards.Proofs.NamespacePolicyProofs
import SecurityDashboards.Proofs.RefreshProofs
import SecurityDashboards.Proofs.JwtSessionProofs
import SecurityDashboards.Proofs.RejectionProofs
import SecurityDashboards.Proofs.AttemptsProofs
import SecurityDashboards.Proofs.LogoutProofs
import SecurityDashboards.Proofs.NextUrlProofs
import SecurityDashboards.Proofs.NextUrlAgreementProofs
import SecurityDashboards.Proofs.LoginFlowProofs
import SecurityDashboards.Proofs.PostLoginProofs
import SecurityDashboards.Proofs.ReadonlyProofs
import SecurityDashboards.Proofs.TenantSessionsProofs
import SecurityDashboards.Proofs.SessionLifecycleProofs
import SecurityDashboards.Proofs.CopiedLinksProofs
import SecurityDashboards.Proofs.ResourceSharingProofs
import SecurityDashboards.Proofs.ResourceUrlsProofs
import SecurityDashboards.Proofs.CopiedTextsProofs
import SecurityDashboards.Proofs.NextPathProofs
import SecurityDashboards.Proofs.ReadonlyServiceProofs
import SecurityDashboards.Proofs.RefreshTokensProofs
import SecurityDashboards.Proofs.RoleEditorProofs
import SecurityDashboards.Proofs.SharingGrantsProofs
import SecurityDashboards.Proofs.TenantPreferencesProofs
import SecurityDashboards.AuditEditor
import SecurityDashboards.Lib.JsArray
import SecurityDashboards.Lib.LineDiff
import SecurityDashboards.Lib.NestedObject
import SecurityDashboards.Lib.TextLines
import SecurityDashboards.PrettierCheck
import SecurityDashboards.Proofs.AuditEditorProofs
import SecurityDashboards.Proofs.PrettierCheckProofs
import SecurityDashboards.Proofs.RoleMappingsProofs
import SecurityDashboards.Proofs.TenancyEditorProofs
import SecurityDashboards.ConfigurationApi
import SecurityDashboards.DataSources
import SecurityDashboards.InternalUserEditor
import SecurityDashboards.Lib.Lockstep
import SecurityDashboards.Lib.Walks
import SecurityDashboards.MultipleTypes
import SecurityDashboards.PermissionTree
import SecurityDashboards.Proofs.ConfigurationApiProofs
import SecurityDashboards.Proofs.DataSourcesProofs
import SecurityDashboards.Proofs.InternalUserEditorProofs
import SecurityDashboards.Proofs.ListPagesProofs
import SecurityDashboards.Proofs.MultipleTypesProofs
import SecurityDashboards.Proofs.PermissionTreeProofs
import SecurityDashboards.Proofs.SignInOptionsProofs
import SecurityDashboards.Proofs.TenantRestoreProofs
import SecurityDashboards.Lib.Registry
import SecurityDashboards.PluginSetup
import SecurityDashboards.RoleMappingEditor
import SecurityDashboards.Proofs.PluginSetupProofs
import SecurityDashboards.Proofs.SplitCookiesProofs
import SecurityDashboards.Proofs.RoleMappingEditorProofs
import SecurityDashboards.DefaultTenant
import SecurityDashboards.PasswordReset
import SecurityDashboards.Proofs.DefaultTenantProofs
import SecurityDashboards.Proofs.PasswordResetProofs
