import IicpDirectory.Foundations.Schema

/-!
# The baseline schema

The tables of `schema/baseline-v1.sql` whose columns decide what becomes of
a statement: the addresses a node was seen from, the conformance badges, the
event log, the observations of proxies, and the nodes themselves. JSON and
money columns are here as the texts and the numbers they are given as;
indexes and keys are not part of a column.
-/

open Schema

namespace Baseline

/-- `node_address_history`. -/
def nodeAddressHistory : Table where
  columns := [
    .counter "id",
    .required "node_id" (.text 36),
    .required "ip_address" (.text 45),
    .required "request_type" (.member ["register", "heartbeat", "other"]),
    .required "observed_at" .moment]
  names_nodup := by decide

/-- `conformance_badges`. -/
def conformanceBadges : Table where
  columns := [
    .required "badge_id" (.text 36),
    .required "tier" (.text 32),
    .required "subject_did" (.text 256),
    .required "subject_component" (.text 16),
    .required "suite_version" (.text 32),
    .required "passed_at" .moment,
    .required "expires_at" .moment,
    .required "test_results_url" (.text 512),
    .required "issuer_did" (.text 256),
    .withDefault "verification_mode" (.text 32) (.text "self-attested"),
    .required "sig" (.text 65535),
    .withDefault "status" (.text 16) (.text "active"),
    .optional "created_at" .moment,
    .optional "updated_at" .moment]
  names_nodup := by decide

/-- `node_events`. -/
def nodeEvents : Table where
  columns := [
    .counter "id",
    .required "event_id" (.text 36),
    .required "seq" .number,
    .required "event_type" (.text 32),
    .optional "service_id" (.text 64),
    .optional "node_id" (.text 36),
    .required "ts_ms" .number,
    .required "payload" (.text 1073741824),
    .optional "prev_hash" (.text 64),
    .optional "signature" (.text 128),
    .optional "created_at" .moment,
    .optional "updated_at" .moment]
  names_nodup := by decide

/-- `proxy_telemetry`. -/
def proxyTelemetry : Table where
  columns := [
    .counter "id",
    .required "node_id" (.text 36),
    .required "proxy_node_id" (.text 36),
    .required "time_bucket" .number,
    .required "latency_ms_observed" .number,
    .withDefault "tokens_observed" .number (.number 0),
    .withDefault "status" (.text 32) (.text "success"),
    .optional "qos_advertised" (.text 32),
    .withDefault "qos_met" .number (.number 1),
    .optional "created_at" .moment,
    .optional "updated_at" .moment]
  names_nodup := by decide

/-- `nodes`. -/
def nodes : Table where
  columns := [
    .required "id" (.text 36),
    .required "endpoint" (.text 255),
    .optional "observed_source_ip" (.text 45),
    .required "region" (.text 64),
    .withDefault "load" .number (.number 0),
    .withDefault "active_jobs" .number (.number 0),
    .withDefault "available" .number (.number 1),
    .withDefault "relay_capable" .number (.number 0),
    .optional "backend" (.text 32),
    .optional "health_models" (.text 1073741824),
    .optional "backend_stability" (.text 1073741824),
    .optional "policy_manifest" (.text 1073741824),
    .withDefault "allow_remote_inference" .number (.number 0),
    .withDefault "allow_tool_execution" .number (.number 0),
    .withDefault "allow_file_access" .number (.number 0),
    .optional "pricing_credits_per_1000" .number,
    .withDefault "credit_cost_multiplier" .number (.number 1),
    .withDefault "pricing_model" (.text 32) (.text "per_token"),
    .optional "declaration_signature" (.text 65535),
    .withDefault "attested" .number (.number 0),
    .withDefault "reputation_score" .number (.number (1 / 2)),
    .optional "legacy_reputation_score" .number,
    .withDefault "reputation_model" (.text 32) (.text "outcome-v2"),
    .optional "reputation_epoch" (.text 36),
    .optional "last_metrics_batch_id" (.text 64),
    .withDefault "rep_hourly_gain" .number (.number 0),
    .optional "rep_hourly_window_start" .moment,
    .withDefault "credit_balance" .number (.number 0),
    .withDefault "tasks_total" .number (.number 0),
    .withDefault "tasks_failed" .number (.number 0),
    .withDefault "avg_latency_ms" .number (.number 0),
    .withDefault "tasks_total_recent" .number (.number 0),
    .withDefault "tasks_failed_recent" .number (.number 0),
    .withDefault "avg_latency_ms_recent" .number (.number 0),
    .optional "recent_window_start" .moment,
    .optional "free_credit_last_allocation_at" .moment,
    .withDefault "public_listing" .number (.number 0),
    .optional "operator_url" (.text 256),
    .optional "operator_contact" (.text 256),
    .optional "operator_pubkey" (.text 80),
    .withDefault "operator_verified" .number (.number 0),
    .optional "operator_trust_tier" (.text 16),
    .withDefault "status" (.text 255) (.text "active"),
    .optional "dormant_since" .moment,
    .optional "identity_key" (.text 64),
    .withDefault "lifetime_jobs" .number (.number 0),
    .optional "pricing_effective_from" .moment,
    .optional "pricing_effective_until" .moment,
    .optional "last_seen" .moment,
    .optional "liveness_challenge" (.text 64),
    .optional "liveness_verified_at" .moment,
    .required "node_token_hash" (.text 512),
    .optional "proxy_token_hash" (.text 60),
    .optional "node_hmac_key" (.text 64),
    .required "max_concurrent" .number,
    .required "tokens_per_min" .number,
    .optional "did_public_key" (.text 255),
    .optional "created_at" .moment,
    .optional "updated_at" .moment,
    .optional "transport_method" (.text 32),
    .optional "nat_type" (.text 32),
    .optional "transport_metadata" (.text 1073741824),
    .optional "transport_endpoint" (.text 255),
    .withDefault "public_reachable" .number (.number 0),
    .optional "endpoint_verified_dead_at" .moment,
    .optional "sdk_language" (.text 32),
    .optional "implementation_name" (.text 64),
    .optional "implementation_version" (.text 32),
    .optional "sdk_compatibility_version" (.text 32),
    .optional "exposure_mode" (.text 36),
    .optional "cx_public_key" (.text 1073741824),
    .optional "gossip_public_key" (.text 128),
    .optional "sdk_version" (.text 32),
    .optional "supported_receipt_profiles" (.text 1073741824),
    .optional "auto_update_enabled" .number,
    .optional "auto_update_interval_s" .number,
    .optional "sdk_latest_seen" (.text 32),
    .optional "sdk_update_last_checked_at" .moment,
    .optional "sdk_update_error_class" (.text 64)]
  names_nodup := by decide

end Baseline
